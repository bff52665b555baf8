import ViewAdapters.Metadata.Reader
import ViewAdapters.Proofs.Adapter.Findings

/-!
# Types of loaded view-models

Whatever stands in a document, the descriptors of the view-models that are read from it are
types: the text of a type ends in a scalar or in a name below its layers, and only a
collection has elements.

* `TypeText.isType_of_parseChars`: what is read from a text is a type.
* `typeOf_readProperty`: the elements of a property are those of its type.
* `isTyped_of_readViewModels`: all descriptors of a loaded view-model are types.
-/

namespace ViewAdapters

/-! ## Texts of types -/

namespace TypeText

theorem isType_of_shape {cs : List Char} {d : Descriptor} (h : shape cs = .leaf d) :
    d.isType = true := by
  unfold shape at h
  split at h
  · contradiction
  split at h
  · contradiction
  split at h
  · cases h
    rfl
  split at h
  · contradiction
  split at h
  · cases h
    rfl
  · split at h
    · contradiction
    · cases h
      rfl

/-- A layer around a type is a type. -/
theorem isType_of_read {text : List Char} {inner : Except Error Reading} {s : Shape}
    {reading : Reading} (hLeaf : ∀ d, s = .leaf d → d.isType = true)
    (hInner : ∀ r, s.inner?.isSome = true → inner = .ok r → r.1.isType = true)
    (h : s.read text inner = .ok reading) : reading.1.isType = true := by
  cases s with
  | empty => cases h
  | leaf d =>
    cases h
    exact hLeaf d rfl
  | optional front =>
    obtain ⟨⟨d, isObservable⟩, hRead, hRest⟩ := bind_eq_ok.1 h
    cases isObservable with
    | true => cases hRest
    | false =>
      cases hRest
      exact hInner (d, false) rfl hRead
  | array front =>
    obtain ⟨r, hRead, hRest⟩ := bind_eq_ok.1 h
    cases hRest
    exact hInner r rfl hRead
  | applied generic argument =>
    cases generic with
    | observable | collection | nullable =>
      obtain ⟨r, hRead, hRest⟩ := bind_eq_ok.1 h
      cases hRest
      exact hInner r rfl hRead

theorem isType_of_parseChars {cs : List Char} {reading : Reading}
    (h : parseChars cs = .ok reading) : reading.1.isType = true := by
  induction cs using parseChars.induct generalizing reading with
  | case1 cs =>
    rename_i hNone
    rw [parse_eq] at h
    refine isType_of_read (fun d => isType_of_shape) (fun r hSome => ?_) h
    rw [hNone] at hSome
    contradiction
  | case2 cs =>
    rename_i inner hSome ih
    rw [parse_eq] at h
    refine isType_of_read (fun d => isType_of_shape) (fun r _ hRead => ?_) h
    rw [hSome] at hRead
    exact ih hRead

end TypeText

namespace Metadata

open Document (Value)

variable {limits : Limits}

theorem isType_of_readType {place : Place} {text : String} {reading : TypeText.Reading}
    (h : readType limits place text = .ok reading) : reading.1.isType = true :=
  TypeText.isType_of_parseChars (parse_of_readType h)

/-! ## Members -/

theorem eq_collection_of_elementOf {place : Place} {reading : TypeText.Reading}
    {isDeclared : Bool} {element : Option Descriptor}
    (h : elementOf place reading isDeclared = .ok element) :
    ∀ d ∈ element, reading.1 = .collection d := by
  unfold elementOf at h
  split at h
  · split at h
    · rename_i inner hType
      cases h
      rintro _ ⟨⟩
      exact hType
    · contradiction
  · cases h
    nofun

theorem typeOf_readProperty {place : Place} {v : Value} {p : Property}
    (h : readProperty limits place v = .ok p) :
    p.type.isType = true ∧ ∀ d ∈ p.element, p.type = .collection d := by
  simp only [readProperty, bind_eq_ok] at h
  obtain ⟨entries, -, name, -, text, -, reading, hType, element, hElement, h⟩ := h
  obtain ⟨validation, -, batching, -, typeOverride, -, semantics, -, excluded, -, h⟩ := h
  obtain ⟨warning, -, h⟩ := h
  cases h
  exact ⟨isType_of_readType hType, eq_collection_of_elementOf hElement⟩

theorem isType_of_readParameter {place : Place} {v : Value} {parameter : Option Descriptor}
    (h : readParameter limits place v = .ok parameter) : ∀ d ∈ parameter, d.isType = true := by
  obtain ⟨text, -, h⟩ := bind_eq_ok.1 h
  cases text with
  | none =>
    cases h
    nofun
  | some text =>
    obtain ⟨reading, hType, h⟩ := bind_eq_ok.1 h
    cases h
    rintro _ ⟨⟩
    exact isType_of_readType hType

theorem isType_of_readCommand {place : Place} {v : Value} {c : Command}
    (h : readCommand limits place v = .ok c) : ∀ d ∈ c.parameter, d.isType = true := by
  simp only [readCommand, bind_eq_ok] at h
  obtain ⟨entries, -, name, -, parameter, hParameter, threading, -, behavior, -, h⟩ := h
  obtain ⟨excluded, -, warning, -, h⟩ := h
  cases h
  exact isType_of_readParameter hParameter

/-! ## View-models -/

/-- What is read from the items of a list is read from one of them each. -/
theorem exists_read_of_readEach {α : Type} {place : Place} {read : Place → Value → Except Error α}
    {index : Nat} {items : List Value} {as : List α}
    (h : readEach place read index items = .ok as) :
    ∀ a ∈ as, ∃ q item, read q item = .ok a := by
  rw [readEach_eq_mapM, mapM_eq_ok] at h
  intro a ha
  obtain ⟨k, hk, rfl⟩ := List.getElem_of_mem ha
  exact ⟨_, _, h.get (h.length_eq ▸ hk) hk⟩

theorem isTyped_of_readViewModel {place : Place} {value : Value} {v : ViewModel}
    (h : readViewModel limits place value = .ok v) : v.IsTyped := by
  simp only [readViewModel, bind_eq_ok] at h
  obtain ⟨entries, -, name, -, items, -, properties, hProperties, h⟩ := h
  obtain ⟨items, -, commands, hCommands, qualifiedName, -, originModule, -, excluded, -, h⟩ := h
  cases h
  refine ⟨fun p hp => ?_, fun c hc => ?_⟩
  · obtain ⟨q, item, hRead⟩ := exists_read_of_readEach hProperties p hp
    obtain ⟨hType, hElement⟩ := typeOf_readProperty hRead
    refine ⟨hType, fun d hd => ?_⟩
    rw [hElement d hd] at hType
    exact hType
  · obtain ⟨q, item, hRead⟩ := exists_read_of_readEach hCommands c hc
    exact isType_of_readCommand hRead

theorem isTyped_of_readViewModels {document : Value} {vs : List ViewModel}
    (h : readViewModelsWithin limits document = .ok vs) : ∀ v ∈ vs, v.IsTyped := by
  obtain ⟨items, -, h⟩ := bind_eq_ok.1 h
  intro v hv
  obtain ⟨q, item, hRead⟩ := exists_read_of_readEach h v hv
  exact isTyped_of_readViewModel hRead

end Metadata
end ViewAdapters
