import Mathlib.Logic.Relation
import ViewAdapters.Proofs.Adapter.Parts

/-!
# Excluded members

What a standard backend makes of a view-model does not depend on the members that are
excluded for its platform. They can be inserted, deleted and replaced by others of their
kind without any effect on the adapter: not on its text, not on its imports and
capabilities, and not on its findings or on whether there is one at all.

* `HiddenEdit.filter_eq`, `filter_eq_of_hiddenEdits`: changes of hidden items keep the list
  of the other items.
* `Assembly.make_withViewModel`: two view-models with the same members for a platform are
  assembled from the same parts.
* `UserTemplate.render_withViewModel`: the standard text tells nothing of a view-model but
  three names.
* `Backend.generate_eq_of_differInExcluded`: the adapters of view-models that differ in
  excluded members are equal.
-/

namespace ViewAdapters

/-! ## Lists with hidden items -/

/-- A change of one item of a list, which is hidden before and after it. -/
inductive HiddenEdit {α : Type} (hidden : α → Bool) : List α → List α → Prop
  | insert (front rest : List α) {x : α} (hx : hidden x = true) :
    HiddenEdit hidden (front ++ rest) (front ++ x :: rest)
  | delete (front rest : List α) {x : α} (hx : hidden x = true) :
    HiddenEdit hidden (front ++ x :: rest) (front ++ rest)
  | replace (front rest : List α) {x y : α} (hx : hidden x = true) (hy : hidden y = true) :
    HiddenEdit hidden (front ++ x :: rest) (front ++ y :: rest)

section Hidden

variable {α : Type} {hidden : α → Bool} {xs ys : List α}

theorem HiddenEdit.filter_eq (h : HiddenEdit hidden xs ys) :
    ys.filter (fun x => !hidden x) = xs.filter fun x => !hidden x := by
  cases h with
  | insert front rest hx => simp [List.filter_append, hx]
  | delete front rest hx => simp [List.filter_append, hx]
  | replace front rest hx hy => simp [List.filter_append, hx, hy]

theorem filter_eq_of_hiddenEdits (h : Relation.ReflTransGen (HiddenEdit hidden) xs ys) :
    ys.filter (fun x => !hidden x) = xs.filter fun x => !hidden x := by
  induction h with
  | refl => rfl
  | tail _ hEdit ih => exact hEdit.filter_eq.trans ih

end Hidden

/-- View-models that differ in members excluded for a platform and in nothing else. -/
structure DifferInExcluded (platform : Platform) (v w : ViewModel) : Prop where
  name : w.name = v.name
  qualifiedName : w.qualifiedName = v.qualifiedName
  originModule : w.originModule = v.originModule
  excluded : w.excluded = v.excluded
  properties : Relation.ReflTransGen (HiddenEdit fun p : Property => p.excluded.get platform)
    v.properties w.properties
  commands : Relation.ReflTransGen (HiddenEdit fun c : Command => c.excluded.get platform)
    v.commands w.commands

namespace DifferInExcluded

variable {platform : Platform} {v w : ViewModel}

theorem propertiesFor_eq (h : DifferInExcluded platform v w) :
    w.propertiesFor platform = v.propertiesFor platform :=
  filter_eq_of_hiddenEdits h.properties

theorem commandsFor_eq (h : DifferInExcluded platform v w) :
    w.commandsFor platform = v.commandsFor platform :=
  filter_eq_of_hiddenEdits h.commands

end DifferInExcluded

/-! ## Contents of view-models with the same members -/

/-- A content that is put down to another view-model. -/
def Content.withViewModel (c : Content) (w : ViewModel) : Content := { c with viewModel := w }

namespace Assembly

/-- An assembly that is put down to another view-model. -/
def withViewModel (a : Assembly) (w : ViewModel) : Assembly :=
  { a with content := a.content.withViewModel w }

theorem ofParts_withViewModel {v w : ViewModel} (h : w.qualifiedName = v.qualifiedName)
    (t : Target) (package : String) (time : Calendar.UtcSecond)
    (properties : List PropertyPart) (commands : List CommandPart) :
    ofParts t package time w properties commands =
      (ofParts t package time v properties commands).withViewModel w := by
  unfold ofParts
  rw [h]
  rfl

/-- What is assembled depends on the members for the platform, and on the view-model itself
by its qualified name. -/
theorem make_withViewModel {t : Target} {v w : ViewModel}
    (hProperties : w.propertiesFor t.platform = v.propertiesFor t.platform)
    (hCommands : w.commandsFor t.platform = v.commandsFor t.platform)
    (hName : w.qualifiedName = v.qualifiedName) (package : String) (time : Calendar.UtcSecond) :
    make t package time w = (make t package time v).map (·.withViewModel w) := by
  unfold make
  rw [hProperties, hCommands]
  cases (v.propertiesFor t.platform).mapM (propertyPart t) with
  | error fault => rfl
  | ok properties =>
    cases (v.commandsFor t.platform).mapM (commandPart t) with
    | error fault => rfl
    | ok commands =>
      exact congrArg Except.ok (ofParts_withViewModel hName t package time properties commands)

end Assembly

/-! ## Texts of view-models with the same names -/

section Texts

variable {c : Content} {w : ViewModel}

theorem Content.adapterName_withViewModel (hName : w.name = c.viewModel.name) :
    (c.withViewModel w).adapterName = c.adapterName :=
  congrArg ViewModel.adapterNameOf hName

/-- The lines after the header show nothing of a view-model but the name of its adapter. -/
theorem UserTemplate.bodyLines_withViewModel (hName : w.name = c.viewModel.name)
    (platform : Platform) : bodyLines platform (c.withViewModel w) = bodyLines platform c := by
  have hAdapter := Content.adapterName_withViewModel hName
  cases platform <;>
    simp only [bodyLines, Kotlin.lines, Kotlin.openingLines, Swift.lines, Swift.openingLines,
      hAdapter] <;> rfl

theorem Header.text_withViewModel (hQualified : w.qualifiedName = c.viewModel.qualifiedName)
    (hModule : w.originModule = c.viewModel.originModule) :
    Header.text (c.withViewModel w) = Header.text c := by
  unfold Header.text Header.lines Content.withViewModel
  rw [hQualified, hModule]
  rfl

/-- The standard templates show three names of a view-model and its members for the
platform. -/
theorem UserTemplate.render_withViewModel (hName : w.name = c.viewModel.name)
    (hQualified : w.qualifiedName = c.viewModel.qualifiedName)
    (hModule : w.originModule = c.viewModel.originModule) :
    render [] (c.withViewModel w) = render [] c := by
  rw [render_standard, render_standard, Header.text_withViewModel hQualified hModule,
    bodyLines_withViewModel hName]
  rfl

end Texts

/-! ## Adapters of view-models with the same members -/

namespace Backend

theorem adapterOf_withViewModel {v w : ViewModel} (hName : w.name = v.name) (b : Backend)
    (assembly : Assembly) (text : String) :
    b.adapterOf w (assembly.withViewModel w) text = b.adapterOf v assembly text := by
  have hAdapter : w.adapterName = v.adapterName := congrArg ViewModel.adapterNameOf hName
  unfold adapterOf ViewModel.fileName
  rw [hName, hAdapter]
  rfl

/-- Members that are excluded for the platform of a backend have no effect on its adapters. -/
theorem generate_eq_of_differInExcluded {b : Backend} (hStandard : b.templates = [])
    {v w : ViewModel} (h : DifferInExcluded b.platform v w) : b.generate w = b.generate v := by
  have hMake := Assembly.make_withViewModel (t := b.target) h.propertiesFor_eq h.commandsFor_eq
    h.qualifiedName b.package b.time
  unfold generate generateBy UserTemplate.renderer
  rw [hMake, hStandard, h.name]
  cases hAssembly : Assembly.make b.target b.package b.time v with
  | error fault => rfl
  | ok assembly =>
    have hViewModel := Assembly.viewModel_of_make hAssembly
    have hText : UserTemplate.render [] (assembly.withViewModel w).content =
        UserTemplate.render [] assembly.content := by
      apply UserTemplate.render_withViewModel <;> rw [hViewModel]
      · exact h.name
      · exact h.qualifiedName
      · exact h.originModule
    simp only [Except.map, Except.mapError, bind, Except.bind, hText,
      b.adapterOf_withViewModel h.name]

/-- A view-model of a property and a command, with others that Android adapters leave out. -/
def notes (hiddenProperties : List String) (hiddenCommands : List String) : ViewModel where
  name := "NotesViewModel"
  qualifiedName := "App.NotesViewModel"
  originModule := "App"
  properties := hiddenProperties.map (fun name =>
      { Property.plain name (.foreign name) with excluded := ⟨true, false⟩ }) ++
    [.plain "Title" (.primitive "string")]
  commands := .plain "Load" :: hiddenCommands.map fun name =>
    { Command.plain name with excluded := ⟨true, false⟩ }
  excluded := Exclusion.none

theorem differInExcluded_notes :
    DifferInExcluded .android (notes ["Draft"] ["Save"]) (notes [] ["Share"]) where
  name := rfl
  qualifiedName := rfl
  originModule := rfl
  excluded := rfl
  properties := .single (.delete [] [Property.plain "Title" (.primitive "string")] rfl)
  commands := .single (.replace [Command.plain "Load"] [] rfl rfl)

/-- A property without a type, which would be refused, and the name of a command leave no
trace where they are excluded. -/
theorem generate_notes :
    DifferInExcluded .android (notes ["Draft"] ["Save"]) (notes [] ["Share"]) ∧
      (standard .android).generate (notes [] ["Share"]) =
        (standard .android).generate (notes ["Draft"] ["Save"]) :=
  ⟨differInExcluded_notes, generate_eq_of_differInExcluded rfl differInExcluded_notes⟩

end Backend
end ViewAdapters
