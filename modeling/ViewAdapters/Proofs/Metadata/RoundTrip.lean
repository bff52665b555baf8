import ViewAdapters.Metadata.Reader
import ViewAdapters.Proofs.Metadata.TypeSpelling

/-!
# Documents that are read again

A document holds every field of its view-models under a key of its own. Where something
is left out can be said in two forms, and every view-model and member has its own form.

* `readProperty_write`, `readCommand_write`, `readViewModel_write`: what is written is
  read as it was.
* `readViewModels_write`: a document is read as the view-models that it was made of.
-/

namespace ViewAdapters.Metadata

open Document (Value Entries)
open TypeText (Generic)

/-! ## Writing -/

/-- The forms in which a document says where something is left out. -/
inductive ExclusionForm where
  /-- The platforms are listed. -/
  | listed
  /-- The platforms are declared not to be available. -/
  | unavailable

/-- Null in place of what is not there. -/
def orNull {α : Type} (write : α → Value) : Option α → Value
  | none => .null
  | some a => write a

def writeExclusion (excluded : Exclusion) : ExclusionForm → Entries
  | .listed =>
    [(.text "excluded_platforms", .list (excluded.toList.map fun p => .text p.name))]
  | .unavailable =>
    [(.text "available", .mapping (excluded.toList.map fun p => (.text p.name, .bool false)))]

def writeType (d : Descriptor) : Value := .text (String.ofList d.spelling)

/-- The type of a property, which is a generic type of its own if it is observable. -/
def writePropertyType (p : Property) : Value :=
  match p.element with
  | some element => .text (String.ofList (Generic.observable.apply element.spelling))
  | none => writeType p.type

def writeOverride (o : TypeOverride) : Value :=
  .mapping [(.text Platform.android.name, orNull .text o.android),
    (.text Platform.ios.name, orNull .text o.ios)]

def writeValidation (v : Validation) : Value :=
  .mapping [(.text "validate_on_set", .bool v.validateOnSet),
    (.text "validator_method", orNull .text v.validator)]

def writeBatching (b : Batching) : Value :=
  .mapping [(.text "supports_batching", .bool b.isSupported),
    (.text "batch_size", orNull .int b.size)]

def writeThreading (t : Threading) : Value :=
  .mapping [(.text "requires_main_thread", .bool t.requiresMain),
    (.text "requires_background_thread", .bool t.requiresBackground)]

def writeBehavior (b : CommandBehavior) : Value :=
  .mapping [(.text "requires_main_thread", .bool b.requiresMain),
    (.text "expose_can_execute", .bool b.exposesCanExecute)]

section Write

-- The form of the exclusions is chosen place by place.
variable (form : Place → ExclusionForm) (place : Place)

def propertyEntries (p : Property) : Entries :=
  [(.text "name", .text p.name), (.text "type", writePropertyType p),
    (.text "read_only", .bool p.isReadOnly),
    (.text "observable_collection", .bool p.isObservable),
    (.text "type_override", orNull writeOverride p.typeOverride),
    (.text "date_semantics", orNull (fun d => .text d.name) p.dateSemantics),
    (.text "validation", orNull writeValidation p.validation),
    (.text "collection_behavior", orNull writeBatching p.batching),
    (.text "warning", orNull .text p.warning)] ++ writeExclusion p.excluded (form place)

def writeProperty (p : Property) : Value := .mapping (propertyEntries form place p)

def commandEntries (c : Command) : Entries :=
  [(.text "name", .text c.name), (.text "async", .bool c.isAsync),
    (.text "parameter_type", orNull writeType c.parameter),
    (.text "threading", orNull writeThreading c.threading),
    (.text "command_behavior", orNull writeBehavior c.behavior),
    (.text "warning", orNull .text c.warning)] ++ writeExclusion c.excluded (form place)

def writeCommand (c : Command) : Value := .mapping (commandEntries form place c)

/-- Writes items of a list that starts at an index, each at its place. -/
def writeEach {α : Type} (write : Place → α → Value) (index : Nat) : List α → List Value
  | [] => []
  | a :: rest => write (place.item index) a :: writeEach write (index + 1) rest

def viewModelEntries (v : ViewModel) : Entries :=
  [(.text "name", .text v.name), (.text "fully_qualified_name", .text v.qualifiedName),
    (.text "origin_module", .text v.originModule),
    (.text "properties",
      .list (writeEach (place.key "properties") (writeProperty form) 0 v.properties)),
    (.text "commands",
      .list (writeEach (place.key "commands") (writeCommand form) 0 v.commands))] ++
    writeExclusion v.excluded (form place)

def writeViewModel (v : ViewModel) : Value := .mapping (viewModelEntries form place v)

/-- The view-models as a bare list. -/
def bareDocument (vs : List ViewModel) : Value := .list (writeEach [] (writeViewModel form) 0 vs)

/-- The view-models as a mapping with a list of them. -/
def document (vs : List ViewModel) : Value :=
  .mapping [(.text viewModelsKey, bareDocument form vs)]

end Write

/-! ## Reading single values -/

theorem isTrue_bool (b : Bool) : isTrue (.bool b) = b := by
  cases b <;> rfl

theorem requireText_text (place : Place) {s : String} (h : s ≠ "") :
    requireText place (.text s) = .ok s :=
  requireText_eq_ok.2 ⟨rfl, by simpa using h⟩

theorem readFilledText_text {s : String} (h : s ≠ "") :
    readFilledText (.text s) = .ok (some s) := by
  have hEmpty : s.isEmpty = false := by simpa using h
  simp [readFilledText, readText, Value.asText, Except.map, Option.filter, hEmpty]

theorem textOr_text {s otherwise : String} (h : s ≠ "") : textOr (.text s) otherwise = .ok s := by
  unfold textOr
  rw [readFilledText_text h]
  rfl

/-- A warning is written as its text, never as a truth value. -/
theorem readWarning_orNull {entries : Entries} {warning : Option String}
    (h : Value.field entries "warning" = orNull .text warning) :
    readWarning entries = .ok warning := by
  unfold readWarning
  rw [h]
  cases warning <;> rfl

/-- Date semantics are read back from their names. -/
theorem readDateSemantics_orNull (place : Place) (d : Option DateSemantics) :
    readDateSemantics place (orNull (fun d => .text d.name) d) = .ok d := by
  cases d with
  | none => rfl
  | some d =>
    have hName : dateSemantics? d.name = some d := by cases d <;> decide +kernel
    simp [readDateSemantics, orNull, readText, Value.asText, bind, Except.bind, hName, pure,
      Except.pure]

/-! ## Reading small mappings -/

/-- An override is read back if it says something for some platform. -/
theorem readOverride_orNull (place : Place) {o : Option TypeOverride}
    (h : ∀ t ∈ o, t.android.isSome ∨ t.ios.isSome) :
    readOverride place (orNull writeOverride o) = .ok o := by
  cases o with
  | none => rfl
  | some t =>
    obtain ⟨android, ios⟩ := t
    have hSome := h _ rfl
    cases android <;> cases ios <;> first | rfl | simp at hSome

theorem readValidation_orNull (place : Place) (v : Option Validation) :
    readValidation place (orNull writeValidation v) = .ok v := by
  cases v with
  | none => rfl
  | some v =>
    obtain ⟨onSet, validator⟩ := v
    cases validator <;> rfl

theorem readBatching_orNull (place : Place) (b : Option Batching) :
    readBatching place (orNull writeBatching b) = .ok b := by
  cases b with
  | none => rfl
  | some b =>
    obtain ⟨supported, size⟩ := b
    cases supported <;> cases size <;> rfl

theorem readThreading_orNull (place : Place) (t : Option Threading) :
    readThreading place (orNull writeThreading t) = .ok t := by
  cases t with
  | none => rfl
  | some t =>
    obtain ⟨main, background⟩ := t
    cases main <;> cases background <;> rfl

theorem readBehavior_orNull (place : Place) (b : Option CommandBehavior) :
    readBehavior place (orNull writeBehavior b) = .ok b := by
  cases b with
  | none => rfl
  | some b =>
    obtain ⟨main, canExecute⟩ := b
    cases main <;> cases canExecute <;> rfl

/-! ## Reading exclusions -/

/-- The names of platforms are read back one after the other. -/
theorem readExcluded_names (place : Place) (excluded : Exclusion) (ps : List Platform) :
    readExcluded .unbounded place excluded (ps.map fun p => .text p.name) =
      .ok (ps.foldl (fun e p => e.set p true) excluded) := by
  induction ps generalizing excluded with
  | nil => rfl
  | cons p rest ih =>
    have hName : Platform.ofText p.name = .ok p := by
      unfold Platform.ofText
      rw [Platform.ofText?_name]
    rw [List.map_cons, readExcluded, Value.displayWithin, Value.displayIn]
    dsimp only
    rw [hName]
    exact ih (excluded.set p true)

/-- An exclusion is made of the platforms that it lists. -/
theorem foldl_set_toList (e : Exclusion) :
    e.toList.foldl (fun e p => e.set p true) Exclusion.none = e := by
  obtain ⟨android, ios⟩ := e
  cases android <;> cases ios <;> rfl

/-- Platforms that are declared not to be available are excluded, the others are not. -/
theorem asTruth_unavailable (e : Exclusion) (p : Platform) :
    (asTruth (Value.field (e.toList.map fun p => (.text p.name, .bool false)) p.name) ==
      some false) = e.get p := by
  obtain ⟨android, ios⟩ := e
  cases android <;> cases ios <;> cases p <;> rfl

/-- Both forms of an exclusion are read as it, among whatever other fields. -/
theorem readExclusion_write (place : Place) {entries : Entries} {e : Exclusion}
    (form : ExclusionForm)
    (hListed : Value.field entries "excluded_platforms" =
      Value.field (writeExclusion e form) "excluded_platforms")
    (hAvailable : Value.field entries "available" =
      Value.field (writeExclusion e form) "available") :
    readExclusion .unbounded place entries = .ok e := by
  unfold readExclusion
  rw [hListed, hAvailable]
  cases form with
  | listed =>
    have hNames := readExcluded_names (place.key "excluded_platforms") Exclusion.none e.toList
    rw [foldl_set_toList] at hNames
    show (readExcluded .unbounded (place.key "excluded_platforms") Exclusion.none
      (e.toList.map fun p => .text p.name)).bind .ok = Except.ok e
    rw [hNames]
    rfl
  | unavailable =>
    show Except.ok (PerPlatform.ofFun fun p => Exclusion.none.get p ||
      asTruth (Value.field (e.toList.map fun p => (.text p.name, .bool false)) p.name) ==
        some false) = Except.ok e
    refine congrArg Except.ok (PerPlatform.ext_get fun p => ?_)
    rw [PerPlatform.get_ofFun, asTruth_unavailable]
    cases p <;> rfl

/-! ## Reading types -/

theorem readType_spelling (place : Place) {d : Descriptor} (h : d.IsSpellable) :
    readType .unbounded place (String.ofList d.spelling) = .ok (d, false) := by
  unfold readType parseType Limits.unbounded TypeText.parse
  rw [String.toList_ofList, TypeText.parseChars_spelling h]

/-- The spelling of an observable collection reads as one. -/
theorem readType_observable (place : Place) {d : Descriptor} (h : d.IsSpellable) :
    readType .unbounded place (String.ofList (Generic.observable.apply d.spelling)) =
      .ok (.collection d, true) := by
  unfold readType parseType Limits.unbounded TypeText.parse
  rw [String.toList_ofList, TypeText.parseChars_observable h]

/-! ## Reading members and view-models -/

/-- A property that a document can hold. -/
structure IsWritableProperty (p : Property) : Prop where
  name : p.name ≠ ""
  type : p.type.IsSpellable
  element : ∀ d ∈ p.element, p.type = .collection d
  override : ∀ t ∈ p.typeOverride, t.android.isSome ∨ t.ios.isSome

structure IsWritableCommand (c : Command) : Prop where
  name : c.name ≠ ""
  parameter : ∀ d ∈ c.parameter, d.IsSpellable

structure IsWritable (v : ViewModel) : Prop where
  name : v.name ≠ ""
  qualifiedName : v.qualifiedName ≠ ""
  originModule : v.originModule ≠ ""
  properties : ∀ p ∈ v.properties, IsWritableProperty p
  commands : ∀ c ∈ v.commands, IsWritableCommand c

section Read

variable (form : Place → ExclusionForm) (place : Place)

/-- The text of a property's type with its reading and the element type that follows. -/
theorem readPropertyType {p : Property} (h : IsWritableProperty p) :
    ∃ text isObservable, text ≠ "" ∧ writePropertyType p = .text text ∧
      readType .unbounded (place.key "type") text = .ok (p.type, isObservable) ∧
      elementOf place (p.type, isObservable) p.isObservable = .ok p.element := by
  unfold writePropertyType Property.isObservable
  cases hElement : p.element with
  | none =>
    exact ⟨_, false, (TypeText.isTight_spelling h.type).ofList_ne, rfl,
      readType_spelling _ h.type, rfl⟩
  | some d =>
    have hType := h.element d hElement
    have hSpellable : d.IsSpellable := by
      have hAll := h.type
      rw [hType] at hAll
      exact hAll
    refine ⟨_, true, ((TypeText.isTight_spelling hSpellable).apply .observable).ofList_ne, rfl,
      ?_, ?_⟩
    · rw [hType]
      exact readType_observable _ hSpellable
    · rw [hType]
      rfl

/-- A property is read back from what it is written as. -/
theorem readProperty_write {p : Property} (h : IsWritableProperty p) :
    readProperty .unbounded place (writeProperty form place p) = .ok p := by
  obtain ⟨text, isObservable, hText, hType, hReading, hElement⟩ := readPropertyType place h
  have hMapping : requireMapping place (writeProperty form place p) =
      .ok (propertyEntries form place p) := rfl
  have hName : requireText (place.key "name")
      (Value.field (propertyEntries form place p) "name") = .ok p.name :=
    requireText_text _ h.name
  have hTypeText : requireText (place.key "type")
      (Value.field (propertyEntries form place p) "type") = .ok text := by
    show requireText _ (writePropertyType p) = _
    rw [hType]
    exact requireText_text _ hText
  have hDeclared : isTrue (Value.field (propertyEntries form place p) "observable_collection") =
      p.isObservable := isTrue_bool _
  have hReadOnly : isTrue (Value.field (propertyEntries form place p) "read_only") =
      p.isReadOnly := isTrue_bool _
  have hValidation : readValidation (place.key "validation")
      (Value.field (propertyEntries form place p) "validation") = .ok p.validation :=
    readValidation_orNull _ _
  have hBatching : readBatching (place.key "collection_behavior")
      (Value.field (propertyEntries form place p) "collection_behavior") = .ok p.batching :=
    readBatching_orNull _ _
  have hOverride : readOverride (place.key "type_override")
      (Value.field (propertyEntries form place p) "type_override") = .ok p.typeOverride :=
    readOverride_orNull _ h.override
  have hSemantics : readDateSemantics (place.key "date_semantics")
      (Value.field (propertyEntries form place p) "date_semantics") = .ok p.dateSemantics :=
    readDateSemantics_orNull _ _
  have hExclusion :
      readExclusion .unbounded place (propertyEntries form place p) = .ok p.excluded :=
    readExclusion_write place (form place) rfl rfl
  have hWarning : readWarning (propertyEntries form place p) = .ok p.warning :=
    readWarning_orNull rfl
  unfold readProperty
  simp only [hMapping, bind, Except.bind, hName, hTypeText, hReading, hDeclared, hElement,
    hValidation, hBatching, hOverride, hSemantics, hExclusion, hWarning, hReadOnly, pure,
    Except.pure]

theorem readParameter_orNull {parameter : Option Descriptor}
    (h : ∀ d ∈ parameter, d.IsSpellable) :
    readParameter .unbounded place (orNull writeType parameter) = .ok parameter := by
  cases parameter with
  | none => rfl
  | some d =>
    have hSpellable := h d rfl
    have hText : readFilledText (orNull writeType (some d)) =
        .ok (some (String.ofList d.spelling)) :=
      readFilledText_text (TypeText.isTight_spelling hSpellable).ofList_ne
    unfold readParameter
    simp only [hText, bind, Except.bind, readType_spelling place hSpellable, pure, Except.pure]

/-- A command is read back from what it is written as. -/
theorem readCommand_write {c : Command} (h : IsWritableCommand c) :
    readCommand .unbounded place (writeCommand form place c) = .ok c := by
  have hMapping : requireMapping place (writeCommand form place c) =
      .ok (commandEntries form place c) := rfl
  have hName : requireText (place.key "name")
      (Value.field (commandEntries form place c) "name") = .ok c.name :=
    requireText_text _ h.name
  have hAsync : isTrue (Value.field (commandEntries form place c) "async") = c.isAsync :=
    isTrue_bool _
  have hParameter : readParameter .unbounded (place.key "parameter_type")
      (Value.field (commandEntries form place c) "parameter_type") = .ok c.parameter :=
    readParameter_orNull _ h.parameter
  have hThreading : readThreading (place.key "threading")
      (Value.field (commandEntries form place c) "threading") = .ok c.threading :=
    readThreading_orNull _ _
  have hBehavior : readBehavior (place.key "command_behavior")
      (Value.field (commandEntries form place c) "command_behavior") = .ok c.behavior :=
    readBehavior_orNull _ _
  have hExclusion : readExclusion .unbounded place (commandEntries form place c) = .ok c.excluded :=
    readExclusion_write place (form place) rfl rfl
  have hWarning : readWarning (commandEntries form place c) = .ok c.warning :=
    readWarning_orNull rfl
  unfold readCommand
  simp only [hMapping, bind, Except.bind, hName, hParameter, hThreading, hBehavior, hExclusion,
    hWarning, hAsync, pure, Except.pure]

/-- Items that are read one by one are read as a list. -/
theorem readEach_writeEach {α : Type} {read : Place → Value → Except Error α}
    {write : Place → α → Value} {items : List α}
    (h : ∀ a ∈ items, ∀ q, read q (write q a) = .ok a) (index : Nat) :
    readEach place read index (writeEach place write index items) = .ok items := by
  induction items generalizing index with
  | nil => rfl
  | cons a rest ih =>
    have hRest := ih (fun b hb => h b (List.mem_cons_of_mem _ hb)) (index + 1)
    simp only [writeEach, readEach, h a (by simp), hRest, bind, Except.bind, pure, Except.pure]

/-- A view-model is read back with its members in their order. -/
theorem readViewModel_write {v : ViewModel} (h : IsWritable v) :
    readViewModel .unbounded place (writeViewModel form place v) = .ok v := by
  have hMapping : requireMapping place (writeViewModel form place v) =
      .ok (viewModelEntries form place v) := rfl
  have hName : requireText (place.key "name")
      (Value.field (viewModelEntries form place v) "name") = .ok v.name :=
    requireText_text _ h.name
  have hPropertyItems : optionalList (place.key "properties")
      (Value.field (viewModelEntries form place v) "properties") =
      .ok (writeEach (place.key "properties") (writeProperty form) 0 v.properties) := rfl
  have hProperties : readEach (place.key "properties") (readProperty .unbounded) 0
      (writeEach (place.key "properties") (writeProperty form) 0 v.properties) =
      .ok v.properties :=
    readEach_writeEach _ (fun p hp q => readProperty_write form q (h.properties p hp)) 0
  have hCommandItems : optionalList (place.key "commands")
      (Value.field (viewModelEntries form place v) "commands") =
      .ok (writeEach (place.key "commands") (writeCommand form) 0 v.commands) := rfl
  have hCommands : readEach (place.key "commands") (readCommand .unbounded) 0
      (writeEach (place.key "commands") (writeCommand form) 0 v.commands) = .ok v.commands :=
    readEach_writeEach _ (fun c hc q => readCommand_write form q (h.commands c hc)) 0
  have hQualified : textOr (Value.field (viewModelEntries form place v) "fully_qualified_name")
      v.name = .ok v.qualifiedName := textOr_text h.qualifiedName
  have hModule : textOr (Value.field (viewModelEntries form place v) "origin_module")
      ViewModel.unknownModule = .ok v.originModule := textOr_text h.originModule
  have hExclusion :
      readExclusion .unbounded place (viewModelEntries form place v) = .ok v.excluded :=
    readExclusion_write place (form place) rfl rfl
  unfold readViewModel
  simp only [hMapping, bind, Except.bind, hName, hPropertyItems, hProperties, hCommandItems,
    hCommands, hQualified, hModule, hExclusion, pure, Except.pure]

end Read

/-! ## Reading documents -/

/-- What is written in a document, bare or as a mapping, is read from it. -/
theorem readViewModels_write (form : Place → ExclusionForm) {vs : List ViewModel}
    (h : ∀ v ∈ vs, IsWritable v) :
    readViewModels (document form vs) = .ok vs ∧
      readViewModels (bareDocument form vs) = .ok vs := by
  have hItems : readEach [] (readViewModel .unbounded) 0 (writeEach [] (writeViewModel form) 0 vs) =
      .ok vs :=
    readEach_writeEach _ (fun v hv q => readViewModel_write form q (h v hv)) 0
  exact ⟨hItems, hItems⟩

/-- An observable collection with all that a property can have, and a command. -/
def itemList : ViewModel where
  name := "ItemListViewModel"
  qualifiedName := "App.ItemListViewModel"
  originModule := "App"
  properties := [
    { name := "Items"
      type := .collection (.nullable (.reference "App.Item"))
      isReadOnly := true
      element := some (.nullable (.reference "App.Item"))
      typeOverride := some ⟨some "ItemList", none⟩
      dateSemantics := some .dateOnly
      validation := some ⟨false, some "check"⟩
      batching := some ⟨true, some 8⟩
      excluded := ⟨false, true⟩
      warning := some "Keep the order" }]
  commands := [⟨"Load", true, some (.primitive "int32"), some ⟨true, false⟩,
    some ⟨false, true⟩, ⟨true, false⟩, none⟩]
  excluded := Exclusion.none

theorem isWritable_itemList : IsWritable itemList := by
  refine ⟨by decide, by decide, by decide, fun p hp => ?_, fun c hc => ?_⟩
  · cases List.mem_singleton.1 hp
    have hItem : TypeText.IsTypeName "App.Item" :=
      TypeText.isTypeName_of_isNameChar (by decide) (List.all_eq_true.1 (by decide +kernel))
        (by decide +kernel)
    refine ⟨by decide, hItem, fun d hd => ?_, fun t ht => ?_⟩
    · cases hd
      rfl
    · cases ht
      exact .inl rfl
  · cases List.mem_singleton.1 hc
    refine ⟨by decide, fun d hd => ?_⟩
    cases hd
    exact ⟨by decide +kernel, by decide +kernel, by decide +kernel⟩

theorem readViewModels_itemList :
    readViewModels (document (fun _ => .unavailable) [itemList]) = .ok [itemList] ∧
      readViewModels (bareDocument (fun _ => .unavailable) [itemList]) = .ok [itemList] :=
  readViewModels_write _ fun v hv => by
    cases List.mem_singleton.1 hv
    exact isWritable_itemList

end ViewAdapters.Metadata
