import ViewAdapters.Metadata.Reader
import ViewAdapters.Proofs.Adapter.Parts

/-!
# Places of errors

A reading does not look at the place of its value: elsewhere it gives the same, and fails with
the same error moved there. Every error of a reading names a place at the value or inside of it,
unless an integer in the value has no text or something in it is nested too deep.

* `Holds`: the values in a value.
* `IsUnplaced`: the errors of a value that name no place.
* `Locates`: a reading whose errors are placed, with a lemma for each way to put readings
  together.
* `locates_readProperty`, `locates_readCommand`, `locates_readViewModel`: the readings of members
  and of view-models.
-/

namespace ViewAdapters.Metadata

open Document (Value Entries)

/-! ## Errors without a place -/

/-- A value stands in a value: it is the value, or stands in an item or under a key of it. -/
inductive Holds : Value → Value → Prop
  | self (v : Value) : Holds v v
  | item {v item inner : Value} {items : List Value} (hList : v.unrolled = .list items)
      (hItem : item ∈ items) (h : Holds item inner) : Holds v inner
  | entry {v inner : Value} {entries : Entries} {e : Value × Value}
      (hMapping : v.unrolled = .mapping entries) (hEntry : e ∈ entries) (h : Holds e.2 inner) :
      Holds v inner

/-- What is neither a list nor a mapping holds itself only. -/
theorem holds_leaf {v inner : Value} (hList : ∀ items, v.unrolled ≠ .list items)
    (hMapping : ∀ entries, v.unrolled ≠ .mapping entries) : Holds v inner ↔ inner = v := by
  constructor
  · intro h
    cases h with
    | self => rfl
    | item h => exact absurd h (hList _)
    | entry h => exact absurd h (hMapping _)
  · rintro rfl
    exact .self _

theorem holds_int {n : Int} {inner : Value} : Holds (.int n) inner ↔ inner = .int n :=
  holds_leaf (by simp [Value.unrolled]) (by simp [Value.unrolled])

theorem holds_text {s : String} {inner : Value} : Holds (.text s) inner ↔ inner = .text s :=
  holds_leaf (by simp [Value.unrolled]) (by simp [Value.unrolled])

/-- A list holds itself and what its items hold. -/
theorem holds_list {items : List Value} {inner : Value} :
    Holds (.list items) inner ↔ inner = .list items ∨ ∃ item ∈ items, Holds item inner := by
  constructor
  · intro h
    cases h with
    | self => exact .inl rfl
    | item hList hItem h =>
      cases hList
      exact .inr ⟨_, hItem, h⟩
    | entry hMapping => cases hMapping
  · rintro (rfl | ⟨item, hItem, h⟩)
    · exact .self _
    · exact .item rfl hItem h

/-- A mapping holds itself and what stands under its keys holds. Keys are not held. -/
theorem holds_mapping {entries : Entries} {inner : Value} :
    Holds (.mapping entries) inner ↔
      inner = .mapping entries ∨ ∃ e ∈ entries, Holds e.2 inner := by
  constructor
  · intro h
    cases h with
    | self => exact .inl rfl
    | item hList => cases hList
    | entry hMapping hEntry h =>
      cases hMapping
      exact .inr ⟨_, hEntry, h⟩
  · rintro (rfl | ⟨e, hEntry, h⟩)
    · exact .self _
    · exact .entry rfl hEntry h

/-- What a field of a mapping holds, the mapping holds, unless the field is missing. -/
theorem Holds.of_field {v inner : Value} {entries : Entries} {name : String}
    (hMapping : v.unrolled = .mapping entries) (h : Holds (Value.field entries name) inner) :
    inner = .null ∨ Holds v inner := by
  unfold Value.field at h
  split at h
  · rename_i e hFound
    exact .inr (.entry hMapping (List.mem_of_find?_eq_some hFound) h)
  · cases h with
    | self => exact .inl rfl
    | item hList => cases hList
    | entry hMapping => cases hMapping

/-- The errors that name no place: an integer in a value is too long for a text, the text of a
type has too many layers, or a value that is to be shown is nested too deep. -/
inductive IsUnplaced (limits : Limits) (v : Value) : Error → Prop
  | numeral {n : Int} {f : Text.NumeralFault} (h : Holds v (.int n))
      (hNone : Text.numeral? n = .error f) : IsUnplaced limits v (.numeral f)
  | type {inner : Value} {text : String} {calls : Nat} (h : Holds v inner)
      (hText : inner.asText = .ok (some text)) (hLimit : limits.types = some calls)
      (hLayers : calls < TypeText.layers text.toList) : IsUnplaced limits v (.tooDeep .call)
  | value {items : List Value} {inner list : Value} (h : Holds v list)
      (hList : list.unrolled = .list items) (hItem : inner ∈ items)
      (hDeep : inner.displayWithin limits.values = .error .tooDeep) :
      IsUnplaced limits v (.tooDeep .display)

namespace IsUnplaced

variable {limits : Limits} {e : Error}

/-- What has an error of its own has it wherever it stands. -/
theorem of_forall {v w : Value} (hHolds : ∀ inner, Holds v inner → inner = .null ∨ Holds w inner)
    (h : IsUnplaced limits v e) : IsUnplaced limits w e := by
  cases h with
  | numeral h hNone =>
    rcases hHolds _ h with hNull | h
    · cases hNull
    · exact .numeral h hNone
  | type h hText hLimit hLayers =>
    rcases hHolds _ h with rfl | h
    · cases hText
    · exact .type h hText hLimit hLayers
  | value h hList hItem hDeep =>
    rcases hHolds _ h with rfl | h
    · cases hList
    · exact .value h hList hItem hDeep

theorem of_item {v item : Value} {items : List Value} (hList : v.unrolled = .list items)
    (hItem : item ∈ items) (h : IsUnplaced limits item e) : IsUnplaced limits v e :=
  h.of_forall fun _ hInner => .inr (.item hList hItem hInner)

theorem of_entry {v : Value} {entries : Entries} {entry : Value × Value}
    (hMapping : v.unrolled = .mapping entries) (hEntry : entry ∈ entries)
    (h : IsUnplaced limits entry.2 e) : IsUnplaced limits v e :=
  h.of_forall fun _ hInner => .inr (.entry hMapping hEntry hInner)

/-- What stands under a name is in the mapping, or null where nothing stands there. -/
theorem of_field {v : Value} {entries : Entries} {name : String}
    (hMapping : v.unrolled = .mapping entries)
    (h : IsUnplaced limits (Value.field entries name) e) : IsUnplaced limits v e :=
  h.of_forall fun _ hInner => Holds.of_field hMapping hInner

end IsUnplaced

/-! ## Errors of readings -/

/-- The error of a reading elsewhere: a place in it starts at the given one. -/
def Error.within (outer : Place) : Error → Error
  | .fault place f => .fault (outer ++ place) f
  | e => e

/-- An error is moved into a place of several steps from the inside. -/
theorem Error.within_append (a b : Place) (e : Error) :
    e.within (a ++ b) = (e.within b).within a := by
  cases e with
  | fault place f => simp [Error.within, List.append_assoc]
  | document | viewModels | numeral | tooDeep => rfl

@[simp] theorem Error.within_numeral (outer : Place) (f : Text.NumeralFault) :
    (Error.numeral f).within outer = .numeral f := rfl

@[simp] theorem Error.within_tooDeep (outer : Place) (f : DepthFault) :
    (Error.tooDeep f).within outer = .tooDeep f := rfl

/-- Moving an error changes its place only, if it has one. -/
theorem Error.within_eq_self_or (e : Error) (outer : Place) :
    e.within outer = e ∨ ∃ place f, e.within outer = .fault place f := by
  cases e with
  | fault place f => exact .inr ⟨outer ++ place, f, rfl⟩
  | document | viewModels | numeral | tooDeep => exact .inl rfl

/-- Errors of a reading are placed: at any place it gives the same as at the outermost one, with
its error moved there, and the error names a place unless it is a loose one. -/
structure Locates {α : Type} (loose : Error → Prop) (read : Place → Except Error α) : Prop where
  within : ∀ place, read place = (read []).mapError (Error.within place)
  places : ∀ e, read [] = .error e → (∃ place f, e = .fault place f) ∨ loose e

namespace Locates

variable {α β : Type} {loose : Error → Prop} {read : Place → Except Error α}

theorem pure (a : α) : Locates loose fun _ => (.ok a : Except Error α) :=
  ⟨fun _ => rfl, fun _ h => nomatch h⟩

theorem throw (f : Fault) :
    Locates loose fun place => (.error (.fault place f) : Except Error α) := by
  refine ⟨fun place => ?_, fun e h => ?_⟩
  · simp [Except.mapError, Error.within]
  · cases h
    exact .inl ⟨[], f, rfl⟩

/-- A loose error stays as it is at every place. -/
theorem loosen {e : Error} (hLoose : loose e) (hSame : ∀ place, e.within place = e) :
    Locates loose fun _ => (.error e : Except Error α) := by
  refine ⟨fun place => congrArg Except.error (hSame place).symm, fun d h => ?_⟩
  cases h
  exact .inr hLoose

/-- More errors may be left out than those that a reading needs. -/
theorem mono {other : Error → Prop} (h : Locates loose read) (hOther : ∀ {e}, loose e → other e) :
    Locates other read :=
  ⟨h.within, fun e hError => (h.places e hError).imp_right hOther⟩

/-- A reading at a place inside. -/
theorem inside (h : Locates loose read) (steps : Place) :
    Locates loose fun place => read (place ++ steps) := by
  refine ⟨fun place => ?_, fun e hError => ?_⟩
  · rw [h.within (place ++ steps), List.nil_append, h.within steps]
    cases read [] with
    | ok a => rfl
    | error e => exact congrArg Except.error (Error.within_append place steps e)
  · rw [List.nil_append, h.within steps, mapError_eq_error] at hError
    obtain ⟨d, hd, rfl⟩ := hError
    rcases d.within_eq_self_or steps with hSame | ⟨place, f, hPlaced⟩
    · rw [hSame]
      exact h.places d hd
    · exact .inl ⟨place, f, hPlaced⟩

/-- A reading after another one, which may use what that has read. -/
theorem bind {next : α → Place → Except Error β} (h : Locates loose read)
    (hNext : ∀ a, read [] = .ok a → Locates loose (next a)) :
    Locates loose fun place => read place >>= fun a => next a place := by
  refine ⟨fun place => ?_, fun e hError => ?_⟩
  · rw [h.within place]
    cases hRead : read [] with
    | ok a => exact (hNext a hRead).within place
    | error e => rfl
  · rcases bind_eq_error.1 hError with hFirst | ⟨a, hRead, hSecond⟩
    · exact h.places e hFirst
    · exact (hNext a hRead).places e hSecond

theorem map (h : Locates loose read) (g : α → β) :
    Locates loose fun place => (read place).map g := by
  refine ⟨fun place => ?_, fun e hError => h.places e (map_eq_error.1 hError)⟩
  rw [h.within place]
  cases read [] with
  | ok a => rfl
  | error e => rfl

/-- What a reading gives does not depend on the place. -/
theorem eq_ok_iff (h : Locates loose read) (place : Place) {a : α} :
    read place = .ok a ↔ read [] = .ok a := by
  rw [h.within place, mapError_eq_ok]

/-- Elsewhere a reading fails with the same error moved there. -/
theorem eq_error_iff (h : Locates loose read) (place : Place) {e : Error} :
    read place = .error e ↔ ∃ d, read [] = .error d ∧ e = d.within place := by
  rw [h.within place, mapError_eq_error]

end Locates

/-! ## Fields -/

section Fields

variable {limits : Limits} {v : Value} {loose : Error → Prop}

theorem unrolled_of_requireMapping {entries : Entries} {place : Place}
    (h : requireMapping place v = .ok entries) : v.unrolled = .mapping entries := by
  unfold requireMapping at h
  split at h
  · rename_i hMapping
    cases h
    exact hMapping
  · contradiction

theorem locates_requireMapping : Locates loose fun place => requireMapping place v := by
  unfold requireMapping
  split
  · exact .pure _
  · exact .throw .notMapping

/-- A reading of the fields of a mapping: what a field holds, the mapping holds. -/
theorem locates_withFields {α : Type} {next : Entries → Place → Except Error α}
    (h : ∀ entries, v.unrolled = .mapping entries →
      (∀ {name : String} {e : Error}, IsUnplaced limits (Value.field entries name) e →
        IsUnplaced limits v e) →
      Locates (IsUnplaced limits v) (next entries)) :
    Locates (IsUnplaced limits v) fun place =>
      requireMapping place v >>= fun entries => next entries place := by
  refine locates_requireMapping.bind fun entries hEntries => ?_
  have hMapping := unrolled_of_requireMapping hEntries
  exact h entries hMapping (.of_field hMapping)

theorem locates_optionalMapping : Locates loose fun place => optionalMapping place v := by
  unfold optionalMapping
  split
  · exact .pure none
  · exact locates_requireMapping.map some

theorem unrolled_of_optionalMapping {entries : Entries} {place : Place}
    (h : optionalMapping place v = .ok (some entries)) : v.unrolled = .mapping entries := by
  unfold optionalMapping at h
  split at h
  · cases h
  · obtain ⟨entries', hMapping, hSame⟩ := map_eq_ok.1 h
    cases hSame
    exact unrolled_of_requireMapping hMapping

theorem locates_optionalList : Locates loose fun place => optionalList place v := by
  unfold optionalList
  split
  · exact .pure []
  · exact .pure _
  · exact .throw .notList

theorem unrolled_of_optionalList {items : List Value} {place : Place}
    (h : optionalList place v = .ok items) : items = [] ∨ v.unrolled = .list items := by
  unfold optionalList at h
  split at h
  · cases h
    exact .inl rfl
  · rename_i hList
    cases h
    exact .inr hList
  · cases h

theorem IsUnplaced.of_optionalList {items : List Value} {place : Place} {item : Value} {e : Error}
    (h : IsUnplaced limits item e) (hItems : optionalList place v = .ok items)
    (hItem : item ∈ items) : IsUnplaced limits v e := by
  rcases unrolled_of_optionalList hItems with rfl | hList
  · cases hItem
  · exact h.of_item hList hItem

theorem isUnplaced_of_asText {f : Text.NumeralFault} (h : v.asText = .error f) :
    IsUnplaced limits v (.numeral f) := by
  unfold Value.asText at h
  split at h
  · cases h
  · exact .numeral (.self _) (map_eq_error.1 h)
  · cases h
  · cases h

/-- A text is read without a place. -/
theorem locates_readText : Locates (IsUnplaced limits v) fun _ => readText v := by
  unfold readText
  cases hText : v.asText with
  | ok text => exact .pure text
  | error f => exact .loosen (isUnplaced_of_asText hText) (Error.within_numeral · f)

/-- A filled text fails with no place: only an integer without a text stops it. -/
theorem locates_readFilledText : Locates (IsUnplaced limits v) fun _ => readFilledText v :=
  locates_readText.map _

theorem locates_requireText : Locates (IsUnplaced limits v) fun place => requireText place v := by
  unfold requireText
  refine locates_readFilledText.bind fun text _ => ?_
  cases text with
  | none => exact .throw .missing
  | some s => exact .pure s

theorem locates_textOr {otherwise : String} :
    Locates (IsUnplaced limits v) fun _ => textOr v otherwise :=
  locates_readFilledText.map _

/-! ## Parts of members -/

/-- A type names its place unless it has more layers than calls can be nested. -/
theorem locates_readType {text : String} (hText : v.asText = .ok (some text)) :
    Locates (IsUnplaced limits v) fun place => readType limits place text := by
  unfold readType
  rcases parseType_cases limits text with hParse | ⟨hParse, calls, hLimit, hLayers⟩
  · rw [hParse]
    cases TypeText.parse text with
    | ok reading => exact .pure reading
    | error error => exact .throw (.type error)
  · rw [hParse]
    exact .loosen (.type (.self v) hText hLimit hLayers) (Error.within_tooDeep · .call)

theorem locates_elementOf {reading : TypeText.Reading} {isDeclared : Bool} :
    Locates loose fun place => elementOf place reading isDeclared := by
  unfold elementOf
  split
  · split
    · exact .pure _
    · exact .throw .notCollection
  · exact .pure none

theorem locates_readDateSemantics :
    Locates (IsUnplaced limits v) fun place => readDateSemantics place v := by
  unfold readDateSemantics
  refine locates_readText.bind fun text _ => ?_
  cases text with
  | none => exact .pure none
  | some text =>
    dsimp only
    split
    · exact .pure _
    · exact .throw (.dateSemantics text)

/-- The values of both platforms are read inside the place of the override. -/
theorem locates_readOverride : Locates (IsUnplaced limits v) fun place => readOverride place v := by
  unfold readOverride
  refine locates_optionalMapping.bind fun found hFound => ?_
  cases found with
  | none => exact .pure none
  | some entries =>
    have hMapping := unrolled_of_optionalMapping hFound
    refine (locates_readText.mono (.of_field hMapping)).bind fun android _ => ?_
    refine (locates_readText.mono (.of_field hMapping)).bind fun ios _ => ?_
    exact .pure _

theorem locates_readValidation :
    Locates (IsUnplaced limits v) fun place => readValidation place v := by
  unfold readValidation
  refine locates_optionalMapping.bind fun found hFound => ?_
  cases found with
  | none => exact .pure none
  | some entries =>
    have hMapping := unrolled_of_optionalMapping hFound
    refine (locates_readText.mono (.of_field hMapping)).bind fun validator _ => ?_
    exact .pure _

theorem locates_readBatching : Locates loose fun place => readBatching place v := by
  unfold readBatching
  refine locates_optionalMapping.bind fun found _ => ?_
  cases found with
  | none => exact .pure none
  | some entries => exact .pure _

theorem locates_readThreading : Locates loose fun place => readThreading place v := by
  unfold readThreading
  refine locates_optionalMapping.bind fun found _ => ?_
  cases found with
  | none => exact .pure none
  | some entries => exact .pure _

theorem locates_readBehavior : Locates loose fun place => readBehavior place v := by
  unfold readBehavior
  refine locates_optionalMapping.bind fun found _ => ?_
  cases found with
  | none => exact .pure none
  | some entries => exact .pure _

/-- The texts of the items of a list are asked for without a place. -/
theorem isUnplaced_of_optionalList {items : List Value} {place : Place} {item : Value}
    (h : optionalList place v = .ok items) (hItem : item ∈ items)
    (hDeep : item.displayWithin limits.values = .error .tooDeep) :
    IsUnplaced limits v (.tooDeep .display) := by
  rcases unrolled_of_optionalList h with rfl | hList
  · cases hItem
  · exact .value (.self v) hList hItem hDeep

/-- An item of a list of platforms that has no text is a fault of the list. -/
theorem locates_readExcluded {items : List Value} {excluded : Exclusion}
    (hLoose : ∀ item ∈ items, item.displayWithin limits.values = .error .tooDeep →
      loose (.tooDeep .display)) :
    Locates loose fun place => readExcluded limits place excluded items := by
  induction items generalizing excluded with
  | nil => exact .pure excluded
  | cons item items ih =>
    unfold readExcluded
    cases hShown : item.displayWithin limits.values with
    | error fault =>
      cases fault with
      | tooDeep => exact .loosen (hLoose item (by simp) hShown) (Error.within_tooDeep · .display)
      | numeral fault => exact .throw (.numeral fault)
    | ok text =>
      dsimp only
      split
      · exact ih fun other hOther => hLoose other (List.mem_cons_of_mem item hOther)
      · exact .throw (.platform _)

/-- In an exclusion only the listed platforms can be nested too deep. -/
theorem locates_readExclusion {entries : Entries} (hMapping : v.unrolled = .mapping entries) :
    Locates (IsUnplaced limits v) fun place => readExclusion limits place entries := by
  unfold readExclusion
  refine (locates_optionalList.inside [.key "excluded_platforms"]).bind fun items hItems => ?_
  have hLoose : ∀ item ∈ items, item.displayWithin limits.values = .error .tooDeep →
      IsUnplaced limits v (.tooDeep .display) := fun item hItem hDeep =>
    .of_field hMapping (isUnplaced_of_optionalList hItems hItem hDeep)
  have hExcluded : Locates (IsUnplaced limits v) fun place =>
      readExcluded limits place Exclusion.none items := locates_readExcluded hLoose
  refine (hExcluded.inside [.key "excluded_platforms"]).bind fun listed _ => ?_
  refine (locates_optionalMapping.inside [.key "available"]).bind fun found _ => ?_
  cases found with
  | none => exact .pure listed
  | some available => exact .pure _

theorem locates_readWarning {entries : Entries} (hMapping : v.unrolled = .mapping entries) :
    Locates (IsUnplaced limits v) fun _ => readWarning entries := by
  unfold readWarning
  split
  · exact .pure _
  · exact locates_readText.mono (.of_field hMapping)

theorem asText_of_readFilledText {text : String} (h : readFilledText v = .ok (some text)) :
    v.asText = .ok (some text) := by
  obtain ⟨found, hFound, hFilled⟩ := map_eq_ok.1 h
  rw [readText_eq_ok] at hFound
  rw [hFound, (Option.filter_eq_some_iff.1 hFilled.symm).1]

/-- A parameter is read by its type, and a missing one is none. -/
theorem locates_readParameter :
    Locates (IsUnplaced limits v) fun place => readParameter limits place v := by
  unfold readParameter
  refine locates_readFilledText.bind fun text hText => ?_
  cases text with
  | none => exact .pure none
  | some text =>
    refine (locates_readType (asText_of_readFilledText hText)).bind fun reading _ => ?_
    exact .pure _

end Fields

/-! ## Members and view-models -/

section Members

variable {limits : Limits} {v : Value}

/-- Each part of a property names its place inside of the property. -/
theorem locates_readProperty :
    Locates (IsUnplaced limits v) fun place => readProperty limits place v := by
  unfold readProperty
  refine locates_withFields fun entries hMapping hField => ?_
  refine ((locates_requireText.mono hField).inside [.key "name"]).bind fun name _ => ?_
  refine ((locates_requireText.mono hField).inside [.key "type"]).bind fun text hText => ?_
  have hType : Locates (IsUnplaced limits _) fun place => readType limits place text :=
    locates_readType (requireText_eq_ok.1 hText).1
  refine ((hType.mono hField).inside [.key "type"]).bind fun reading _ => ?_
  refine locates_elementOf.bind fun element _ => ?_
  refine ((locates_readValidation.mono hField).inside [.key "validation"]).bind fun _ _ => ?_
  refine (locates_readBatching.inside [.key "collection_behavior"]).bind fun _ _ => ?_
  refine ((locates_readOverride.mono hField).inside [.key "type_override"]).bind fun _ _ => ?_
  refine ((locates_readDateSemantics.mono hField).inside [.key "date_semantics"]).bind fun _ _ => ?_
  refine (locates_readExclusion hMapping).bind fun excluded _ => ?_
  refine (locates_readWarning hMapping).bind fun warning _ => ?_
  exact .pure _

/-- Each part of a command names its place inside of the command. -/
theorem locates_readCommand :
    Locates (IsUnplaced limits v) fun place => readCommand limits place v := by
  unfold readCommand
  refine locates_withFields fun entries hMapping hField => ?_
  refine ((locates_requireText.mono hField).inside [.key "name"]).bind fun name _ => ?_
  refine ((locates_readParameter.mono hField).inside [.key "parameter_type"]).bind fun _ _ => ?_
  refine (locates_readThreading.inside [.key "threading"]).bind fun _ _ => ?_
  refine (locates_readBehavior.inside [.key "command_behavior"]).bind fun _ _ => ?_
  refine (locates_readExclusion hMapping).bind fun excluded _ => ?_
  refine (locates_readWarning hMapping).bind fun warning _ => ?_
  exact .pure _

/-- Items are read at their places in the list. -/
theorem locates_readEach {α : Type} {loose : Error → Prop} {read : Place → Value → Except Error α}
    {items : List Value} (h : ∀ item ∈ items, Locates loose fun place => read place item)
    (index : Nat) : Locates loose fun place => readEach place read index items := by
  induction items generalizing index with
  | nil => exact .pure []
  | cons item items ih =>
    unfold readEach
    have hItem := h item List.mem_cons_self
    refine (hItem.inside [.item index]).bind fun first _ => ?_
    have hRest := ih (fun other hOther => h other (List.mem_cons_of_mem item hOther)) (index + 1)
    refine hRest.bind fun others _ => ?_
    exact .pure _

/-- Members are read at their positions, so that an error of one of them names it. -/
theorem locates_readViewModel :
    Locates (IsUnplaced limits v) fun place => readViewModel limits place v := by
  unfold readViewModel
  refine locates_withFields fun entries hMapping hField => ?_
  refine ((locates_requireText.mono hField).inside [.key "name"]).bind fun name _ => ?_
  refine (locates_optionalList.inside [.key "properties"]).bind fun propertyItems hItems => ?_
  have hProperties := locates_readEach (fun item hItem =>
    locates_readProperty.mono fun h => hField (h.of_optionalList hItems hItem)) 0
  refine (hProperties.inside [.key "properties"]).bind fun properties _ => ?_
  refine (locates_optionalList.inside [.key "commands"]).bind fun commandItems hItems => ?_
  have hCommands := locates_readEach (fun item hItem =>
    locates_readCommand.mono fun h => hField (h.of_optionalList hItems hItem)) 0
  refine (hCommands.inside [.key "commands"]).bind fun commands _ => ?_
  refine (locates_textOr.mono hField).bind fun qualifiedName _ => ?_
  refine (locates_textOr.mono hField).bind fun originModule _ => ?_
  refine (locates_readExclusion hMapping).bind fun excluded _ => ?_
  exact .pure _

end Members

end ViewAdapters.Metadata
