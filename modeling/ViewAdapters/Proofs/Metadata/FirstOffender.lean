import ViewAdapters.Proofs.Metadata.PlacedErrors
import ViewAdapters.Proofs.Metadata.TypeShapes

/-!
# The first offender of a document

A list of items is read up to the first one that is refused on its own, and fails with the error
of that item at its place. For the view-models of a document and, inside of one, for its
properties and its commands, the error of the document therefore names the first offender, and
nothing that stands behind it has a part in the error.

* `readEach_of_first`, `exists_first_of_readEach`: lists fail with the error of the first item
  that is refused.
* `readViewModel_of_property`, `readViewModel_of_command`: view-models fail with that of a member.
* `names_first_offender`: the errors of documents.
-/

namespace ViewAdapters.Metadata

open Document (Value Entries)

/-! ## Lists of items -/

/-- A value is read on its own. -/
def IsRead {α : Type} (read : Place → Value → Except Error α) (v : Value) : Prop :=
  ∃ a, read [] v = .ok a

/-- The first item of a list that is not accepted. -/
structure IsFirstRefused (accepts : Value → Prop) (items : List Value) (i : Nat) (item : Value) :
    Prop where
  found : items[i]? = some item
  refused : ¬accepts item
  before : ∀ k < i, ∀ other, items[k]? = some other → accepts other

namespace IsFirstRefused

variable {accepts : Value → Prop} {items : List Value} {i : Nat} {item : Value}

/-- There is one first refused item. -/
theorem unique (h : IsFirstRefused accepts items i item) {j : Nat} {other : Value}
    (hOther : IsFirstRefused accepts items j other) : i = j ∧ item = other := by
  have hIndex : i = j := by
    rcases Nat.lt_trichotomy i j with hLt | hEq | hGt
    · exact absurd (hOther.before i hLt item h.found) h.refused
    · exact hEq
    · exact absurd (h.before j hGt other hOther.found) hOther.refused
  subst hIndex
  exact ⟨rfl, Option.some.inj (h.found.symm.trans hOther.found)⟩

theorem head {rest : List Value} (h : ¬accepts item) :
    IsFirstRefused accepts (item :: rest) 0 item :=
  ⟨rfl, h, fun k hk => absurd hk k.not_lt_zero⟩

theorem lt_length (h : IsFirstRefused accepts items i item) : i < items.length :=
  (List.getElem?_eq_some_iff.1 h.found).1

/-- What stands behind the first refused item does not matter. -/
theorem take (h : IsFirstRefused accepts items i item) (more : List Value) :
    IsFirstRefused accepts (items.take (i + 1) ++ more) i item := by
  have hLength := h.lt_length
  have hSame : ∀ k ≤ i, (items.take (i + 1) ++ more)[k]? = items[k]? := by
    intro k hk
    rw [List.getElem?_append_left (by rw [List.length_take]; omega),
      List.getElem?_take_of_lt (by omega)]
  refine ⟨(hSame i (Nat.le_refl i)).trans h.found, h.refused, fun k hk other hOther => ?_⟩
  rw [hSame k (Nat.le_of_lt hk)] at hOther
  exact h.before k hk other hOther

/-- Another refused item in its place is the first one as well. -/
theorem replace (h : IsFirstRefused accepts items i item) {new : Value} (hNew : ¬accepts new)
    (more : List Value) : IsFirstRefused accepts (items.take i ++ new :: more) i new := by
  have hLength : (items.take i).length = i := by
    have := h.lt_length
    rw [List.length_take]
    omega
  refine ⟨?_, hNew, fun k hk other hOther => ?_⟩
  · rw [List.getElem?_append_right (by omega), hLength, Nat.sub_self]
    rfl
  · rw [List.getElem?_append_left (by omega), List.getElem?_take_of_lt hk] at hOther
    exact h.before k hk other hOther

end IsFirstRefused

section Each

variable {α : Type} {read : Place → Value → Except Error α} {items : List Value}

theorem not_isRead {v : Value} {d : Error} (h : read [] v = .error d) : ¬IsRead read v := by
  rintro ⟨a, ha⟩
  cases h.symm.trans ha

section Placed

variable {loose : Value → Error → Prop}
  (hRead : ∀ v, Locates (loose v) fun place => read place v) (place : Place) (index : Nat)
include hRead

theorem exists_readEach_iff :
    (∃ as, readEach place read index items = .ok as) ↔ ∀ item ∈ items, IsRead read item := by
  rw [readEach_eq_mapM, exists_mapM_iff]
  constructor
  · intro h item hItem
    obtain ⟨k, hk, rfl⟩ := List.getElem_of_mem hItem
    have hMem : (items[k], index + k) ∈ items.zipIdx index :=
      List.mk_add_mem_zipIdx_iff_getElem?.2 (List.getElem?_eq_getElem hk)
    obtain ⟨a, ha⟩ := h _ hMem
    exact ⟨a, ((hRead _).eq_ok_iff _).1 ha⟩
  · intro h e he
    obtain ⟨a, ha⟩ := h e.1 (List.fst_mem_of_mem_zipIdx he)
    exact ⟨a, ((hRead _).eq_ok_iff _).2 ha⟩

/-- A list fails with the error of the first item that is refused, at its place. -/
theorem readEach_of_first {i : Nat} {item : Value} {d : Error}
    (hFirst : IsFirstRefused (IsRead read) items i item) (hError : read [] item = .error d) :
    readEach place read index items = .error (d.within (place.item (index + i))) := by
  induction items generalizing i index with
  | nil => exact absurd hFirst.lt_length (by simp)
  | cons first rest ih =>
    unfold readEach
    cases i with
    | zero =>
      have hSame : first = item := Option.some.inj hFirst.found
      have hHere := ((hRead item).eq_error_iff (place.item index)).2 ⟨d, hError, rfl⟩
      exact bind_eq_error.2 (.inl (hSame ▸ hHere))
    | succ i =>
      obtain ⟨a, ha⟩ := hFirst.before 0 i.succ_pos first rfl
      have hHere := ((hRead first).eq_ok_iff (place.item index)).2 ha
      have hRest : IsFirstRefused (IsRead read) rest i item :=
        ⟨hFirst.found, hFirst.refused, fun k hk => hFirst.before (k + 1) (by omega)⟩
      have hThere := ih (index + 1) hRest
      rw [Nat.add_assoc, Nat.add_comm 1 i] at hThere
      exact bind_eq_error.2 (.inr ⟨a, hHere, bind_eq_error.2 (.inl hThere)⟩)

theorem readEach_zero_of_first {i : Nat} {item : Value} {d : Error}
    (hFirst : IsFirstRefused (IsRead read) items i item) (hError : read [] item = .error d) :
    readEach place read 0 items = .error (d.within (place.item i)) := by
  have hEach := readEach_of_first hRead place 0 hFirst hError
  rwa [Nat.zero_add] at hEach

theorem exists_first_of_readEach {e : Error} (h : readEach place read index items = .error e) :
    ∃ i item d, IsFirstRefused (IsRead read) items i item ∧ read [] item = .error d ∧
      e = d.within (place.item (index + i)) := by
  induction items generalizing index with
  | nil => cases h
  | cons first rest ih =>
    rcases bind_eq_error.1 h with hHere | ⟨a, hHere, hOthers⟩
    · obtain ⟨d, hError, rfl⟩ := ((hRead first).eq_error_iff _).1 hHere
      refine ⟨0, first, d, ⟨rfl, not_isRead hError, fun k hk => ?_⟩, hError, rfl⟩
      omega
    · have ha := ((hRead first).eq_ok_iff _).1 hHere
      rcases bind_eq_error.1 hOthers with hThere | ⟨as, -, hEnd⟩
      · obtain ⟨i, item, d, hFirst, hError, rfl⟩ := ih (index + 1) hThere
        refine ⟨i + 1, item, d, ⟨hFirst.found, hFirst.refused, fun k hk other hOther => ?_⟩,
          hError, by rw [Nat.add_assoc, Nat.add_comm 1 i]⟩
        cases k with
        | zero =>
          cases hOther
          exact ⟨a, ha⟩
        | succ k => exact hFirst.before k (by omega) other hOther
      · cases hEnd

end Placed
end Each

/-! ## View-models -/

/-- An entry has a name. -/
def HasName (fields : Entries) : Prop :=
  ∃ name, (Value.field fields "name").asText = .ok (some name) ∧ name.isEmpty = false

/-- An entry has a name, and its properties are left out or all of them are read. -/
def HasProperties (limits : Limits) (fields : Entries) : Prop :=
  HasName fields ∧ ∃ items, optionalList [] (Value.field fields "properties") = .ok items ∧
    ∀ item ∈ items, IsRead (readProperty limits) item

theorem requireMapping_of_unrolled {v : Value} {entries : Entries}
    (h : v.unrolled = .mapping entries) (place : Place) : requireMapping place v = .ok entries := by
  unfold requireMapping
  rw [h]

theorem optionalList_of_unrolled {v : Value} {items : List Value} (h : v.unrolled = .list items)
    (place : Place) : optionalList place v = .ok items := by
  unfold optionalList
  rw [h]

section Entry

variable {limits : Limits} {v member : Value} {fields : Entries} {members : List Value} {j : Nat}
  {d : Error} (place : Place)

/-- A view-model with a name fails with the error of its first refused property. -/
theorem readViewModel_of_property (hFields : v.unrolled = .mapping fields) (hName : HasName fields)
    (hList : (Value.field fields "properties").unrolled = .list members)
    (hFirst : IsFirstRefused (IsRead (readProperty limits)) members j member)
    (hError : readProperty limits [] member = .error d) :
    readViewModel limits place v = .error (d.within ((place.key "properties").item j)) := by
  obtain ⟨name, hName⟩ := hName
  have hEach := readEach_zero_of_first (fun _ => locates_readProperty) (place.key "properties")
    hFirst hError
  unfold readViewModel
  rw [requireMapping_of_unrolled hFields]
  refine bind_eq_error.2 (.inr ⟨_, rfl, ?_⟩)
  refine bind_eq_error.2 (.inr ⟨_, requireText_eq_ok.2 hName, ?_⟩)
  refine bind_eq_error.2 (.inr ⟨_, optionalList_of_unrolled hList _, ?_⟩)
  exact bind_eq_error.2 (.inl hEach)

/-- A view-model with properties fails with the error of its first refused command. -/
theorem readViewModel_of_command (hFields : v.unrolled = .mapping fields)
    (hProperties : HasProperties limits fields)
    (hList : (Value.field fields "commands").unrolled = .list members)
    (hFirst : IsFirstRefused (IsRead (readCommand limits)) members j member)
    (hError : readCommand limits [] member = .error d) :
    readViewModel limits place v = .error (d.within ((place.key "commands").item j)) := by
  obtain ⟨⟨name, hName⟩, items, hItems, hAll⟩ := hProperties
  have hOptional : Locates (fun _ => False) fun place =>
    optionalList place (Value.field fields "properties") := locates_optionalList
  obtain ⟨properties, hRead⟩ := (exists_readEach_iff (fun _ => locates_readProperty)
    (place.key "properties") 0).2 hAll
  have hEach := readEach_zero_of_first (fun _ => locates_readCommand) (place.key "commands")
    hFirst hError
  unfold readViewModel
  rw [requireMapping_of_unrolled hFields]
  refine bind_eq_error.2 (.inr ⟨_, rfl, ?_⟩)
  refine bind_eq_error.2 (.inr ⟨_, requireText_eq_ok.2 hName, ?_⟩)
  refine bind_eq_error.2 (.inr ⟨_, (hOptional.eq_ok_iff _).2 hItems, ?_⟩)
  refine bind_eq_error.2 (.inr ⟨_, hRead, ?_⟩)
  refine bind_eq_error.2 (.inr ⟨_, optionalList_of_unrolled hList _, ?_⟩)
  exact bind_eq_error.2 (.inl hEach)

end Entry

/-! ## Documents -/

theorem IsUnplaced.of_viewModelItems {limits : Limits} {document item : Value}
    {items : List Value} {e : Error} (h : IsUnplaced limits item e)
    (hItems : viewModelItems document = .ok items) (hItem : item ∈ items) :
    IsUnplaced limits document e := by
  unfold viewModelItems at hItems
  split at hItems
  · cases hItems
    cases hItem
  · rename_i hList
    cases hItems
    exact h.of_item hList hItem
  · rename_i entries hMapping
    split at hItems
    · cases hItems
      cases hItem
    · rename_i e hFound
      split at hItems
      · rename_i hList
        cases hItems
        exact (h.of_item hList hItem).of_entry hMapping (List.mem_of_find?_eq_some hFound)
      · cases hItems
  · cases hItems

/-- Whether an error is one of documents. That an integer has no text is none, and neither is
that calls cannot be nested as deep as a document is. -/
structure Error.IsMetadata (e : Error) : Prop where
  ne_numeral : ∀ f, e ≠ .numeral f
  ne_tooDeep : ∀ f, e ≠ .tooDeep f

theorem Error.isMetadata_fault (place : Place) (f : Fault) : (Error.fault place f).IsMetadata :=
  ⟨nofun, nofun⟩

theorem Error.IsMetadata.of_within {e : Error} {outer : Place} (h : (e.within outer).IsMetadata) :
    e.IsMetadata := by
  cases e with
  | fault place f => exact isMetadata_fault place f
  | document | viewModels | numeral | tooDeep => exact h

theorem Error.eq_fault_of_within {e : Error} {outer place : Place} {f : Fault}
    (h : e.within outer = .fault place f) : ∃ inner g, e = .fault inner g := by
  cases e with
  | fault inner g => exact ⟨inner, g, rfl⟩
  | document | viewModels | numeral | tooDeep => cases h

theorem isMetadata_of_viewModelItems {document : Value} {e : Error}
    (h : viewModelItems document = .error e) : e.IsMetadata := by
  unfold viewModelItems at h
  split at h
  · cases h
  · cases h
  · split at h
    · cases h
    · split at h
      · cases h
      · cases h
        exact ⟨nofun, nofun⟩
  · cases h
    exact ⟨nofun, nofun⟩

section Readings

variable {limits : Limits}

theorem readViewModelsWithin_eq {document : Value} {items : List Value}
    (h : viewModelItems document = .ok items) :
    readViewModelsWithin limits document = readEach [] (readViewModel limits) 0 items := by
  unfold readViewModelsWithin
  rw [h]
  rfl

theorem isRead_readViewModel_iff {v : Value} :
    IsRead (readViewModel limits) v ↔ ∃ vs, readViewModelsWithin limits (.list [v]) = .ok vs := by
  rw [readViewModelsWithin_list, exists_readEach_iff (fun _ => locates_readViewModel) [] 0]
  simp

theorem readViewModels_of_first {items : List Value} {i : Nat} {entry : Value} {d : Error}
    (hFirst : IsFirstRefused (IsRead (readViewModel limits)) items i entry)
    (hError : readViewModel limits [] entry = .error d) :
    readViewModelsWithin limits (.list items) = .error (d.within [.item i]) :=
  readEach_zero_of_first (fun _ => locates_readViewModel) [] hFirst hError

end Readings

theorem text_entry (i : Nat) : Place.text [.item i] = "view_models[" ++ toString i ++ "]" := by
  have hKey : "view_models[" = viewModelsKey ++ "[" := rfl
  simp [Place.text, Step.text, hKey, String.append_assoc]

theorem text_member (i j : Nat) (key : String) : Place.text [.item i, .key key, .item j] =
    "view_models[" ++ toString i ++ "]." ++ key ++ "[" ++ toString j ++ "]" := by
  have hKey : "view_models[" = viewModelsKey ++ "[" := rfl
  have hDot : "]." = "]" ++ "." := rfl
  simp only [Place.text, List.map_cons, List.map_nil, Step.text, String.join_cons, hKey, hDot,
    String.append_assoc]
  rfl

theorem message_within_item (place : Place) (f : Fault) (i : Nat) :
    ∃ rest, ((Error.fault place f).within [.item i]).message =
      "view_models[" ++ toString i ++ "]" ++ rest := by
  have hPlace := Error.text_of_place [.item i] place f
  rw [text_entry] at hPlace
  exact ⟨_, hPlace⟩

/-- The error of a document names the refused member at an index of the list under a key of an
entry, whatever stands behind that member: behind it in its list, in other fields of the entry
that leave what is read before the list (`ready`) in order, and in other entries. -/
structure NamesMember (limits : Limits) (ready : Entries → Prop) (key : String)
    (items : List Value) (i : Nat) (members : List Value) (j : Nat) (e : Error) : Prop where
  message : e.IsMetadata → ∃ rest, e.message =
    "view_models[" ++ toString i ++ "]." ++ key ++ "[" ++ toString j ++ "]" ++ rest
  unaffected : ∀ entry fields more others, entry.unrolled = .mapping fields → ready fields →
    (Value.field fields key).unrolled = .list (members.take (j + 1) ++ more) →
    readViewModelsWithin limits (.list (items.take i ++ entry :: others)) = .error e

section Members

variable {α : Type} {limits : Limits} {read : Place → Value → Except Error α}
  {ready : Entries → Prop} {key : String} {items members : List Value} {i j : Nat}
  {entry member : Value} {fields : Entries} {d : Error}

/-- If entries fail with the errors of their members, the document does. -/
theorem namesMember_of_first
    (hFails : ∀ {v : Value} {fields : Entries} {members : List Value} {c : Error},
      v.unrolled = .mapping fields → ready fields →
      (Value.field fields key).unrolled = .list members →
      IsFirstRefused (IsRead read) members j member → read [] member = .error c →
      readViewModel limits [] v = .error (c.within [.key key, .item j]))
    (hFirst : IsFirstRefused (IsRead (readViewModel limits)) items i entry)
    (hError : readViewModel limits [] entry = .error d)
    (hPlaced : d.IsMetadata → ∃ place f, d = .fault place f)
    (hFields : entry.unrolled = .mapping fields) (hReady : ready fields)
    (hList : (Value.field fields key).unrolled = .list members)
    (hMember : IsFirstRefused (IsRead read) members j member) :
    NamesMember limits ready key items i members j (d.within [.item i]) := by
  obtain ⟨c, hRefused⟩ : ∃ c, read [] member = .error c := by
    cases hRead : read [] member with
    | error c => exact ⟨c, rfl⟩
    | ok a => exact absurd ⟨a, hRead⟩ hMember.refused
  have hSame : d = c.within [.key key, .item j] := by
    have hEntry := hFails hFields hReady hList hMember hRefused
    rw [hError] at hEntry
    exact Except.error.inj hEntry
  constructor
  · intro hMetadata
    obtain ⟨place, f, hFault⟩ := hPlaced hMetadata.of_within
    obtain ⟨inner, g, rfl⟩ := Error.eq_fault_of_within (hSame.symm.trans hFault)
    refine ⟨String.join (inner.map Step.text) ++ g.complaint, ?_⟩
    rw [hSame, ← text_member, ← Error.within_append]
    exact Error.text_of_place [.item i, .key key, .item j] inner g
  · intro other fields more others hOther hReady hMore
    have hAgain : readViewModel limits [] other = .error d := by
      rw [hSame]
      exact hFails hOther hReady hMore (hMember.take more) hRefused
    exact readViewModels_of_first (hFirst.replace (not_isRead hAgain) others) hAgain

end Members

/-- Where all integers have texts, a document fails with the error of its first refused entry,
which names a place unless something in the document is nested too deep. -/
theorem exists_first_entry {limits : Limits} {document : Value} {items : List Value} {e : Error}
    (hTexts : ∀ n, Holds document (.int n) → ∃ s, Text.numeral? n = .ok s)
    (hItems : viewModelItems document = .ok items)
    (h : readViewModelsWithin limits document = .error e) :
    ∃ i entry d, IsFirstRefused (IsRead (readViewModel limits)) items i entry ∧
      readViewModel limits [] entry = .error d ∧ e = d.within [.item i] ∧
      ((∃ place f, d = .fault place f) ∨
        ∃ f, d = .tooDeep f ∧ IsUnplaced limits document (.tooDeep f)) := by
  rw [readViewModelsWithin_eq hItems] at h
  obtain ⟨i, entry, d, hFirst, hError, rfl⟩ :=
    exists_first_of_readEach (fun _ => locates_readViewModel) [] 0 h
  refine ⟨i, entry, d, hFirst, hError, by rw [Nat.zero_add]; rfl, ?_⟩
  refine (locates_readViewModel.places d hError).imp_right fun hUnplaced => ?_
  have hDocument := hUnplaced.of_viewModelItems hItems (List.mem_of_getElem? hFirst.found)
  cases hDocument with
  | numeral hHolds hNone =>
    obtain ⟨s, hText⟩ := hTexts _ hHolds
    cases hNone.symm.trans hText
  | type hHolds hText hLimit hLayers => exact ⟨_, rfl, .type hHolds hText hLimit hLayers⟩
  | value hHolds hList hItem hDeep => exact ⟨_, rfl, .value hHolds hList hItem hDeep⟩

/-- What a property is made of agrees with its flag. -/
theorem withElement_of_readProperty {limits : Limits} {place : Place} {v : Value} {p : Property}
    (h : readProperty limits place v = .ok p) : ∃ entries text reading,
      v.unrolled = .mapping entries ∧ (Value.field entries "type").asText = .ok (some text) ∧
      TypeText.parse text = .ok reading ∧
      p.withElement (reading.2 || isTrue (Value.field entries "observable_collection"))
        p.element = .ok p := by
  simp only [readProperty, bind_eq_ok] at h
  obtain ⟨entries, hEntries, name, -, text, hText, reading, hType, element, hElement, h⟩ := h
  obtain ⟨validation, -, batching, -, typeOverride, -, semantics, -, excluded, -, h⟩ := h
  obtain ⟨warning, -, h⟩ := h
  cases h
  refine ⟨entries, text, reading, unrolled_of_requireMapping hEntries,
    (requireText_eq_ok.1 hText).1, parse_of_readType hType,
    Property.withElement_ok_iff.2 ⟨?_, rfl⟩⟩
  unfold elementOf at hElement
  split at hElement
  · rename_i hFlag
    split at hElement
    · cases hElement
      exact hFlag
    · contradiction
  · rename_i hFlag
    cases hElement
    exact Bool.eq_false_iff.2 hFlag

/-- A document is read or fails with an error of documents, where every integer in it has a text
and nothing in it is nested too deep; what is read of a property is what can be made of its flag
and its element. The error is that of the first entry that is not read on its own, and the one of
the first refused property of an entry with a name, or of the first refused command of one with
properties, and names that place; nothing behind the offender has a part in it. -/
theorem names_first_offender (limits : Limits) (document : Value)
    (hTexts : ∀ n, Holds document (.int n) → ∃ s, Text.numeral? n = .ok s) :
    ((∃ vs, readViewModelsWithin limits document = .ok vs) ∨
      ∃ e, readViewModelsWithin limits document = .error e ∧
        (e.IsMetadata ∨ ∃ f, e = .tooDeep f ∧ IsUnplaced limits document (.tooDeep f))) ∧
    (∀ place v p, readProperty limits place v = .ok p → ∃ entries text reading,
      v.unrolled = .mapping entries ∧
      (Value.field entries "type").asText = .ok (some text) ∧
      TypeText.parse text = .ok reading ∧
      p.withElement (reading.2 || isTrue (Value.field entries "observable_collection"))
        p.element = .ok p) ∧
    ∀ items e, viewModelItems document = .ok items →
      readViewModelsWithin limits document = .error e →
      ∃ i entry,
        IsFirstRefused (fun v => ∃ vs, readViewModelsWithin limits (.list [v]) = .ok vs)
          items i entry ∧
        (e.IsMetadata → ∃ rest, e.message = "view_models[" ++ toString i ++ "]" ++ rest) ∧
        (∀ more, readViewModelsWithin limits (.list (items.take (i + 1) ++ more)) = .error e) ∧
        ∀ fields, entry.unrolled = .mapping fields →
          (HasName fields → ∀ properties j property,
            (Value.field fields "properties").unrolled = .list properties →
            IsFirstRefused (IsRead (readProperty limits)) properties j property →
            NamesMember limits HasName "properties" items i properties j e) ∧
          (HasProperties limits fields → ∀ commands j command,
            (Value.field fields "commands").unrolled = .list commands →
            IsFirstRefused (IsRead (readCommand limits)) commands j command →
            NamesMember limits (HasProperties limits) "commands" items i commands j e) := by
  refine ⟨?_, fun _ _ _ => withElement_of_readProperty, fun items e hItems hError => ?_⟩
  · cases hRead : readViewModelsWithin limits document with
    | ok vs => exact .inl ⟨vs, rfl⟩
    | error e =>
      refine .inr ⟨e, rfl, ?_⟩
      cases hItems : viewModelItems document with
      | error c =>
        unfold readViewModelsWithin at hRead
        rw [hItems] at hRead
        cases hRead
        exact .inl (isMetadata_of_viewModelItems hItems)
      | ok items =>
        obtain ⟨i, entry, d, -, -, rfl, ⟨place, f, rfl⟩ | ⟨f, rfl, hDeep⟩⟩ :=
          exists_first_entry hTexts hItems hRead
        · exact .inl (Error.isMetadata_fault _ f)
        · exact .inr ⟨f, rfl, hDeep⟩
  · obtain ⟨i, entry, d, hFirst, hEntry, rfl, hCases⟩ := exists_first_entry hTexts hItems hError
    have hPlaced : d.IsMetadata → ∃ place f, d = .fault place f := fun hMetadata =>
      hCases.resolve_right fun ⟨f, hDeep, _⟩ => hMetadata.ne_tooDeep f hDeep
    have hAlone : (fun v => ∃ vs, readViewModelsWithin limits (.list [v]) = .ok vs) =
        IsRead (readViewModel limits) :=
      funext fun v => propext isRead_readViewModel_iff.symm
    refine ⟨i, entry, hAlone ▸ hFirst, fun hMetadata => ?_, fun more => ?_,
      fun fields hFields => ⟨?_, ?_⟩⟩
    · obtain ⟨place, f, rfl⟩ := hPlaced hMetadata.of_within
      exact message_within_item place f i
    · exact readViewModels_of_first (hFirst.take more) hEntry
    · intro hName properties j property hList hMember
      exact namesMember_of_first (fun hFields hReady hList hMember hError =>
        readViewModel_of_property [] hFields hReady hList hMember hError)
        hFirst hEntry hPlaced hFields hName hList hMember
    · intro hProperties commands j command hList hMember
      exact namesMember_of_first (fun hFields hReady hList hMember hError =>
        readViewModel_of_command [] hFields hReady hList hMember hError)
        hFirst hEntry hPlaced hFields hProperties hList hMember

/-- Properties of which the first one has no type and the second one is no mapping. -/
def unfinishedProperties : List Value := [.mapping [(.text "name", .text "Lines")], .text "Sum"]

def unfinishedFields : Entries := [
  (.text "name", .text "Orders"),
  (.text "properties", .list unfinishedProperties),
  (.text "commands", .text "Send")]

def unfinishedEntries : List Value := [
  .mapping [(.text "name", .text "Stops"), (.text "revision", .int 7)],
  .mapping unfinishedFields,
  .text "Routes"]

/-- The second property, the commands and the last entry are no better, but stand behind. -/
theorem names_first_offender_unfinished :
    (∀ n, Holds (.list unfinishedEntries) (.int n) → ∃ s, Text.numeral? n = .ok s) ∧
      ∃ e, readViewModelsWithin .standard (.list unfinishedEntries) = .error e ∧
        e.message = "view_models[1].properties[0].type is required" ∧
        (∀ more, readViewModelsWithin .standard (.list (unfinishedEntries.take 2 ++ more)) =
          .error e) ∧
        NamesMember .standard HasName "properties" unfinishedEntries 1 unfinishedProperties 0
          e := by
  have hTexts : ∀ n, Holds (.list unfinishedEntries) (.int n) → ∃ s, Text.numeral? n = .ok s := by
    intro n hHolds
    have hSeven : n = 7 := by
      simpa [unfinishedEntries, unfinishedFields, unfinishedProperties, holds_list,
        holds_mapping, holds_text, holds_int] using hHolds
    have hBound : (7 : Int).natAbs < Text.numeralBound := by decide +kernel
    exact ⟨_, Text.numeral?_eq_ok.2 ⟨hSeven ▸ hBound, rfl⟩⟩
  have hRead : readViewModelsWithin .standard (.list unfinishedEntries) =
      .error (.fault [.item 1, .key "properties", .item 0, .key "type"] .missing) := rfl
  have hSecond : IsFirstRefused (fun v => ∃ vs, readViewModelsWithin .standard (.list [v]) = .ok vs)
      unfinishedEntries 1 (.mapping unfinishedFields) := by
    refine ⟨rfl, fun ⟨vs, h⟩ => (nomatch h), fun k hk other hOther => ?_⟩
    obtain rfl : k = 0 := by omega
    cases hOther
    exact ⟨_, rfl⟩
  have hProperty : IsFirstRefused (IsRead (readProperty .standard)) unfinishedProperties 0
      (.mapping [(.text "name", .text "Lines")]) := .head (not_isRead rfl)
  obtain ⟨i, entry, hFirst, -, hBehind, hMembers⟩ :=
    (names_first_offender .standard (.list unfinishedEntries) hTexts).2.2 _ _ rfl hRead
  obtain ⟨rfl, rfl⟩ := hFirst.unique hSecond
  have hName : HasName unfinishedFields := ⟨"Orders", rfl, rfl⟩
  exact ⟨hTexts, _, hRead, by decide, hBehind, (hMembers _ rfl).1 hName _ _ _ rfl hProperty⟩

/-! ## Types of many layers -/

/-- A type of question marks alone, each of which is a layer around an empty type. -/
def doubts (n : Nat) : String := String.ofList (List.replicate n '?')

def doubtfulProperty (n : Nat) : Value :=
  .mapping [(.text "name", .text "P"), (.text "type", .text (doubts n))]

def doubtfulFields (n : Nat) : Entries :=
  [(.text "name", .text "X"), (.text "properties", .list [doubtfulProperty n])]

def doubtfulDocument (n : Nat) : Value := .list [.mapping (doubtfulFields n)]

theorem not_holds_int_doubtfulDocument (n : Nat) (m : Int) :
    ¬Holds (doubtfulDocument n) (.int m) := by
  simp [doubtfulDocument, doubtfulFields, doubtfulProperty, holds_list, holds_mapping, holds_text]

theorem layers_doubts (n : Nat) : TypeText.layers (List.replicate n '?') = n + 1 := by
  induction n with
  | zero =>
    rw [TypeText.layers_eq]
    rfl
  | succ n ih =>
    have hTrimmed : Text.trimChars (List.replicate (n + 1) '?') = List.replicate (n + 1) '?' :=
      Text.trimChars_of_ends List.replicate_succ rfl List.replicate_succ' rfl
    rw [TypeText.layers_eq, hTrimmed, List.replicate_succ', TypeText.shape_optional]
    exact congrArg (· + 1) ih

/-- Where a type has more layers than calls can be nested, nothing but its depth is told. -/
theorem readType_of_layers {limits : Limits} {calls : Nat} {text : String}
    (hLimit : limits.types = some calls) (hLayers : calls < TypeText.layers text.toList)
    (place : Place) : readType limits place text = .error (.tooDeep .call) := by
  have hParse : parseType limits text = none := by
    rw [parseType, hLimit]
    exact (TypeText.parseWithin_eq calls text.toList).trans (if_neg (Nat.not_le_of_lt hLayers))
  rw [readType, hParse]

theorem readViewModels_doubtfulDocument {limits : Limits} {calls n : Nat}
    (hLimit : limits.types = some calls) (hLayers : calls ≤ n) :
    readViewModelsWithin limits (doubtfulDocument (n + 1)) = .error (.tooDeep .call) := by
  have hMore : calls < TypeText.layers (doubts (n + 1)).toList := by
    rw [doubts, String.toList_ofList, layers_doubts]
    omega
  have hFilled : (doubts (n + 1)).isEmpty = false := by
    simp [doubts, List.replicate_succ]
  have hText : ∀ place, requireText place (.text (doubts (n + 1))) = .ok (doubts (n + 1)) :=
    fun place => requireText_eq_ok.2 ⟨rfl, hFilled⟩
  have hProperty : readProperty limits [] (doubtfulProperty (n + 1)) = .error (.tooDeep .call) := by
    refine bind_eq_error.2 (.inr ⟨_, rfl, bind_eq_error.2 (.inr ⟨_, rfl, ?_⟩)⟩)
    refine bind_eq_error.2 (.inr ⟨_, hText _, ?_⟩)
    exact bind_eq_error.2 (.inl (readType_of_layers hLimit hMore _))
  have hMember : IsFirstRefused (IsRead (readProperty limits)) [doubtfulProperty (n + 1)] 0
      (doubtfulProperty (n + 1)) := .head (not_isRead hProperty)
  have hEntry := readViewModel_of_property [] (v := .mapping (doubtfulFields (n + 1))) rfl
    ⟨"X", rfl, rfl⟩ rfl hMember hProperty
  exact readViewModels_of_first (.head (not_isRead hEntry)) hEntry

/-- The errors of documents are not all that documents fail with. -/
theorem twenty_thousand_doubts_tooDeep :
    ¬ ∀ document, (∀ n, Holds document (.int n) → ∃ s, Text.numeral? n = .ok s) →
      (∃ vs, readViewModelsWithin .standard document = .ok vs) ∨
        ∃ e, readViewModelsWithin .standard document = .error e ∧ e.IsMetadata := by
  intro h
  have hTexts : ∀ n, Holds (doubtfulDocument 20000) (.int n) → ∃ s, Text.numeral? n = .ok s :=
    fun n hHolds => absurd hHolds (not_holds_int_doubtfulDocument 20000 n)
  have hRead : readViewModelsWithin .standard (doubtfulDocument 20000) = .error (.tooDeep .call) :=
    readViewModels_doubtfulDocument (n := 19999) rfl (by decide)
  rcases h _ hTexts with ⟨vs, hOk⟩ | ⟨e, hError, hMetadata⟩
  · cases hRead.symm.trans hOk
  · cases hRead.symm.trans hError
    exact hMetadata.ne_tooDeep _ rfl

end ViewAdapters.Metadata
