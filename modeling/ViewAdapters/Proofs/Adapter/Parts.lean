import Mathlib.Data.List.Forall2
import ViewAdapters.Adapter.Generation

/-!
# Parts of adapters

When the generation of an adapter gives a result, and what parts that result is made of:
one for each member that is not excluded, in the order of the members.

* `mapM_eq_ok`, `exists_mapM_iff`: a traversal gives the results of its items, and gives
  them if every item has one.
* `Target.propertyType_eq_ok`, `Target.parameterType_eq_ok`: how the type of a member comes about.
* `Assembly.make_eq_ok`, `Assembly.exists_make_iff`: the parts of an assembly.
* `Backend.generate_eq_ok`, `Backend.exists_generate_iff`: without user templates an
  adapter fails only where one of its parts does.
-/

namespace ViewAdapters

/-! ## Steps that can fail -/

section Steps

variable {ε ε' α β : Type}

/-- Two steps succeed if the first one does and the second one does with its result. -/
theorem bind_eq_ok {x : Except ε α} {f : α → Except ε β} {b : β} :
    x >>= f = .ok b ↔ ∃ a, x = .ok a ∧ f a = .ok b := by
  cases x with
  | error e => simp [bind, Except.bind]
  | ok a => simp [bind, Except.bind]

theorem map_eq_ok {x : Except ε α} {f : α → β} {b : β} :
    x.map f = .ok b ↔ ∃ a, x = .ok a ∧ b = f a := by
  cases x with
  | error e => simp [Except.map]
  | ok a => simp [Except.map, eq_comm]

theorem map_eq_error {x : Except ε α} {f : α → β} {e : ε} : x.map f = .error e ↔ x = .error e := by
  cases x with
  | error e => simp [Except.map]
  | ok a => simp [Except.map]

theorem exists_map_iff {x : Except ε α} {f : α → β} :
    (∃ b, x.map f = .ok b) ↔ ∃ a, x = .ok a := by
  cases x with
  | error e => simp [Except.map]
  | ok a => simp [Except.map]

@[simp]
theorem mapError_error (f : ε → ε') (e : ε) :
    (Except.error e : Except ε α).mapError f = .error (f e) := rfl

@[simp]
theorem mapError_ok (f : ε → ε') (a : α) : (Except.ok a : Except ε α).mapError f = .ok a := rfl

theorem mapError_eq_ok {x : Except ε α} {f : ε → ε'} {a : α} :
    x.mapError f = .ok a ↔ x = .ok a := by
  cases x with
  | error e => simp
  | ok b => simp

/-- Two steps fail if the first one does, or the second one with the result of the first. -/
theorem bind_eq_error {x : Except ε α} {f : α → Except ε β} {e : ε} :
    x >>= f = .error e ↔ x = .error e ∨ ∃ a, x = .ok a ∧ f a = .error e := by
  cases x with
  | error e => simp [bind, Except.bind]
  | ok a => simp [bind, Except.bind]

theorem mapError_eq_error {x : Except ε α} {f : ε → ε'} {e : ε'} :
    x.mapError f = .error e ↔ ∃ d, x = .error d ∧ e = f d := by
  cases x with
  | error e => simp [eq_comm]
  | ok b => simp

/-- A step for each item gives the list of what it gives for them. -/
theorem mapM_eq_ok {f : α → Except ε β} {xs : List α} {ys : List β} :
    xs.mapM f = .ok ys ↔ List.Forall₂ (fun x y => f x = .ok y) xs ys := by
  induction xs generalizing ys with
  | nil => simp [pure, Except.pure, eq_comm]
  | cons x xs ih =>
    rw [List.mapM_cons, bind_eq_ok, List.forall₂_cons_left_iff]
    constructor
    · rintro ⟨y, hy, hRest⟩
      obtain ⟨rest, hTail, hEq⟩ := bind_eq_ok.1 hRest
      exact ⟨y, rest, hy, ih.1 hTail, (Except.ok.inj hEq).symm⟩
    · rintro ⟨y, rest, hy, hTail, rfl⟩
      exact ⟨y, hy, bind_eq_ok.2 ⟨rest, ih.2 hTail, rfl⟩⟩

/-- A step for each item succeeds if it does for every item. -/
theorem exists_mapM_iff {f : α → Except ε β} {xs : List α} :
    (∃ ys, xs.mapM f = .ok ys) ↔ ∀ x ∈ xs, ∃ y, f x = .ok y := by
  simp only [mapM_eq_ok]
  induction xs with
  | nil => simp
  | cons x xs ih =>
    simp only [List.forall₂_cons_left_iff, List.forall_mem_cons, ← ih]
    constructor
    · rintro ⟨_, y, ys, hy, hys, rfl⟩
      exact ⟨⟨y, hy⟩, ys, hys⟩
    · rintro ⟨⟨y, hy⟩, ys, hys⟩
      exact ⟨_, y, ys, hy, hys, rfl⟩

/-- What the results of a traversal hold together is what they hold for each item. -/
theorem mem_flatMap_of_mapM {γ : Type} {f : α → Except ε β} {g : β → List γ}
    {P : α → γ → Prop} {xs : List α} {ys : List β} (h : xs.mapM f = .ok ys)
    (hEach : ∀ x y, f x = .ok y → ∀ z, z ∈ g y ↔ P x z) (z : γ) :
    z ∈ ys.flatMap g ↔ ∃ x ∈ xs, P x z := by
  have hAll := mapM_eq_ok.1 h
  clear h
  induction hAll with
  | nil => simp
  | cons hy _ ih =>
    rw [List.flatMap_cons, List.mem_append, hEach _ _ hy, List.exists_mem_cons_iff]
    exact or_congr_right ih

theorem exists_of_mem_mapM {f : α → Except ε β} {xs : List α} {ys : List β} {y : β}
    (h : xs.mapM f = .ok ys) (hy : y ∈ ys) : ∃ x ∈ xs, f x = .ok y := by
  have hAll := mapM_eq_ok.1 h
  clear h
  induction hAll with
  | nil => contradiction
  | cons hx _ ih =>
    rcases List.mem_cons.1 hy with rfl | hy
    · exact ⟨_, List.mem_cons_self, hx⟩
    · obtain ⟨x, hIn, hResult⟩ := ih hy
      exact ⟨x, List.mem_cons_of_mem _ hIn, hResult⟩

theorem exists_mem_of_mapM {f : α → Except ε β} {xs : List α} {ys : List β} {x : α}
    (h : xs.mapM f = .ok ys) (hx : x ∈ xs) : ∃ y ∈ ys, f x = .ok y := by
  have hAll := mapM_eq_ok.1 h
  clear h
  induction hAll with
  | nil => contradiction
  | cons hy _ ih =>
    rcases List.mem_cons.1 hx with rfl | hx
    · exact ⟨_, List.mem_cons_self, hy⟩
    · obtain ⟨y, hIn, hResult⟩ := ih hx
      exact ⟨y, List.mem_cons_of_mem _ hIn, hResult⟩

end Steps

/-! ## Lists of items and their results -/

section Results

variable {α β γ : Type} {R : α → β → Prop} {xs : List α} {ys : List β} {f : α → γ} {g : β → γ}

/-- Related lists, filtered alike, have the same images where related items have. -/
theorem map_filter_eq_of_forall₂ {p : α → Bool} {q : β → Bool} (h : List.Forall₂ R xs ys)
    (hKept : ∀ {x y}, R x y → q y = p x) (hSame : ∀ {x y}, R x y → q y = true → g y = f x) :
    (ys.filter q).map g = (xs.filter p).map f := by
  induction h with
  | nil => rfl
  | @cons x y _ _ hFirst _ ih =>
    rw [List.filter_cons, List.filter_cons, ← hKept hFirst]
    split
    · rename_i hq
      rw [List.map_cons, List.map_cons, hSame hFirst hq, ih]
    · exact ih

theorem map_eq_map_of_forall₂ (h : List.Forall₂ R xs ys) (hSame : ∀ {x y}, R x y → g y = f x) :
    ys.map g = xs.map f := by
  induction h with
  | nil => rfl
  | cons hFirst _ ih => rw [List.map_cons, List.map_cons, hSame hFirst, ih]

end Results

/-! ## Types of members -/

namespace Target

variable {t : Target} {p : Property} {c : Command} {d : Descriptor} {r : Resolution}

/-- An override takes the place of the type, whatever the type is. -/
theorem resolveWithin_eq_ok :
    t.resolveWithin p d = .ok r ↔
      (∃ name, p.overrideFor t.platform = some name ∧ r = (named t.platform name, [])) ∨
        p.overrideFor t.platform = none ∧ t.resolve p.dateSemantics p.name d = .ok r := by
  unfold resolveWithin
  cases p.overrideFor t.platform with
  | none => simp
  | some name => simp [eq_comm]

/-- The type of a property is a collection of its elements if these are declared. -/
theorem propertyType_eq_ok :
    t.propertyType p = .ok r ↔
      p.element = none ∧ t.resolveWithin p p.type = .ok r ∨
        ∃ element inner, p.element = some element ∧ t.resolveWithin p element = .ok inner ∧
          r = inner.inLayer t.platform .collection := by
  unfold propertyType
  cases p.element with
  | none => simp
  | some element => simp [map_eq_ok]

/-- A parameter is resolved without date semantics. -/
theorem parameterType_eq_ok {parameter : Option Resolution} :
    t.parameterType c = .ok parameter ↔
      c.parameter = none ∧ parameter = none ∨
        ∃ d r, c.parameter = some d ∧ t.resolve none c.name d = .ok r ∧ parameter = some r := by
  unfold parameterType
  cases c.parameter with
  | none => simp [eq_comm]
  | some d => simp [map_eq_ok]

end Target

/-! ## Parts of the content -/

namespace Assembly

variable {t : Target}

theorem ofType_eq_ok {α : Type} {x : Except Target.Fault α} {a : α} :
    ofType x = .ok a ↔ x = .ok a := by
  cases x <;> simp [ofType]

theorem ofShown_eq_ok {α : Type} {x : Text.Shown α} {a : α} : ofShown x = .ok a ↔ x = .ok a := by
  cases x <;> simp [ofShown]

/-- The part of a property: its type, that of its elements and its view. -/
theorem propertyPart_eq_ok {p : Property} {part : PropertyPart} :
    propertyPart t p = .ok part ↔ ∃ r element view, t.propertyType p = .ok r ∧
      viewedElement t p = .ok element ∧
      PropertyView.of t.platform p r.1.name (element.map (·.1.name)) = .ok view ∧
      part = (view, r.1, r.2 ++ (element.map (·.2)).getD []) := by
  simp only [propertyPart, bind_eq_ok, ofType_eq_ok, ofShown_eq_ok]
  constructor
  · rintro ⟨r, hType, element, hElement, view, hView, hPart⟩
    exact ⟨r, element, view, hType, hElement, hView, (Except.ok.inj hPart).symm⟩
  · rintro ⟨r, element, view, hType, hElement, hView, rfl⟩
    exact ⟨r, hType, element, hElement, view, hView, rfl⟩

/-- The part of a command: the type of its parameter, its view and its finding. -/
theorem commandPart_eq_ok {c : Command} {part : CommandPart} :
    commandPart t c = .ok part ↔ ∃ r, t.parameterType c = .ok r ∧
      part = (.of c (r.map (·.1.name)), r.map (·.1),
        (r.map (·.2)).getD [] ++ (c.dispatchFinding t.platform).toList) := by
  simp only [commandPart, bind_eq_ok, ofType_eq_ok]
  constructor
  · rintro ⟨r, hType, hPart⟩
    exact ⟨r, hType, (Except.ok.inj hPart).symm⟩
  · rintro ⟨r, hType, rfl⟩
    exact ⟨r, hType, rfl⟩

theorem viewedElement_eq_ok {p : Property} {element : Option Target.Resolution} :
    viewedElement t p = .ok element ↔
      p.element = none ∧ element = none ∨
        ∃ d r, p.element = some d ∧ t.resolveWithin p d = .ok r ∧ element = some r := by
  unfold viewedElement Property.isObservable
  cases hElement : p.element with
  | none => simp [eq_comm]
  | some d => simp [Target.elementType, hElement, map_eq_ok]

variable {package : String} {time : Calendar.UtcSecond} {v : ViewModel}

/-- An assembly has one part for each member that is not excluded. -/
theorem make_eq_ok {a : Assembly} :
    make t package time v = .ok a ↔ ∃ properties commands,
      (v.propertiesFor t.platform).mapM (propertyPart t) = .ok properties ∧
      (v.commandsFor t.platform).mapM (commandPart t) = .ok commands ∧
      a = ofParts t package time v properties commands := by
  simp only [make, bind_eq_ok]
  constructor
  · rintro ⟨properties, hProperties, commands, hCommands, ha⟩
    exact ⟨properties, commands, hProperties, hCommands, (Except.ok.inj ha).symm⟩
  · rintro ⟨properties, commands, hProperties, hCommands, rfl⟩
    exact ⟨properties, hProperties, commands, hCommands, rfl⟩

/-- An adapter is about the view-model that it is made for. -/
theorem viewModel_of_make {a : Assembly} (h : make t package time v = .ok a) :
    a.content.viewModel = v := by
  obtain ⟨properties, commands, -, -, rfl⟩ := make_eq_ok.1 h
  rfl

/-- An adapter can be made exactly if every member that belongs to the platform can. -/
theorem exists_make_iff :
    (∃ a, make t package time v = .ok a) ↔
      (∀ p ∈ v.propertiesFor t.platform, ∃ part, propertyPart t p = .ok part) ∧
        ∀ c ∈ v.commandsFor t.platform, ∃ part, commandPart t c = .ok part := by
  rw [← exists_mapM_iff, ← exists_mapM_iff]
  constructor
  · rintro ⟨a, ha⟩
    obtain ⟨properties, commands, hProperties, hCommands, -⟩ := make_eq_ok.1 ha
    exact ⟨⟨properties, hProperties⟩, commands, hCommands⟩
  · rintro ⟨⟨properties, hProperties⟩, commands, hCommands⟩
    exact ⟨_, make_eq_ok.2 ⟨properties, commands, hProperties, hCommands, rfl⟩⟩

end Assembly

/-! ## Adapters -/

namespace Backend

variable {b : Backend} {v : ViewModel}

/-- An adapter is the parts of the view-model, rendered to a text. -/
theorem generate_eq_ok {a : Adapter} :
    b.generate v = .ok a ↔ ∃ assembly text,
      Assembly.make b.target b.package b.time v = .ok assembly ∧
      UserTemplate.render b.templates assembly.content = .ok text ∧
      a = b.adapterOf v assembly text := by
  simp only [generate, generateBy, UserTemplate.renderer, bind_eq_ok, mapError_eq_ok]
  constructor
  · rintro ⟨assembly, hMake, text, hText, ha⟩
    exact ⟨assembly, text, hMake, hText, (Except.ok.inj ha).symm⟩
  · rintro ⟨assembly, text, hMake, hText, rfl⟩
    exact ⟨assembly, hMake, text, hText, rfl⟩

/-- With the standard templates only the members can keep an adapter from being generated. -/
theorem exists_generate_iff (hStandard : b.templates = []) :
    (∃ a, b.generate v = .ok a) ↔
      ∃ assembly, Assembly.make b.target b.package b.time v = .ok assembly := by
  constructor
  · rintro ⟨a, ha⟩
    obtain ⟨assembly, text, hMake, -, -⟩ := generate_eq_ok.1 ha
    exact ⟨assembly, hMake⟩
  · rintro ⟨assembly, hMake⟩
    have hText := UserTemplate.render_standard assembly.content
    rw [← hStandard] at hText
    exact ⟨_, generate_eq_ok.2 ⟨assembly, _, hMake, hText, rfl⟩⟩

/-- The built-in backend of a platform with standard settings. -/
def standard (platform : Platform) : Backend where
  target := .ofMap .standard platform
  directory := platform.standardDirectory
  package := standardPackage
  time := ⟨1704164645, by decide, by decide⟩
  templates := []

end Backend

/-- A property with a type and nothing else. -/
def Property.plain (name : String) (type : Descriptor) : Property :=
  ⟨name, type, false, none, none, none, none, none, Exclusion.none, none⟩

/-- A command with nothing but a name. -/
def Command.plain (name : String) : Command :=
  ⟨name, false, none, none, none, Exclusion.none, none⟩

end ViewAdapters
