import Mathlib.Data.List.Sort
import ViewAdapters.Proofs.Adapter.Parts

/-!
# Imports of adapters

Where the imports of an adapter come from: the types of its members, the type that it wraps,
the dispatch of its commands and the structure of its text.

* `SortedSet.sublist_of_subset`: a set with fewer items is a sublist of the other.
* `Assembly.mem_imports_ofParts`: the imports of an assembly by its parts.
-/

namespace ViewAdapters

theorem SortedSet.sublist_of_subset {α : Type} {key : α → String} {s t : SortedSet key}
    (h : ∀ x ∈ s, x ∈ t) : s.items.Sublist t.items := by
  have hNodup : s.items.Nodup := by
    refine s.sorted.imp fun {a b} hLess hSame => ?_
    rw [hSame] at hLess
    exact String.lt_irrefl _ hLess
  have : Std.Antisymm fun a b : α => key a < key b :=
    ⟨fun a b hab hba => absurd (String.lt_trans hab hba) (String.lt_irrefl _)⟩
  exact List.sublist_of_subperm_of_pairwise (List.subperm_of_subset hNodup h) s.sorted t.sorted

theorem ImportSet.mem_insertAll {s : ImportSet} {items : List String} {x : String} :
    x ∈ s.insertAll items ↔ x ∈ s ∨ x ∈ items :=
  SortedSet.mem_insertAll fun _ _ h => h

theorem Target.mem_imports_merge {types : List (Option Resolved)} {x : String} :
    x ∈ (merge types).imports ↔ ∃ r, some r ∈ types ∧ x ∈ r.imports := by
  have hFold : ∀ (rs : List Resolved) (merged : Resolved),
      x ∈ (rs.foldl (fun merged r =>
        { merged with
          capabilities := merged.capabilities.union r.capabilities
          imports := merged.imports.union r.imports }) merged).imports ↔
        x ∈ merged.imports ∨ ∃ r ∈ rs, x ∈ r.imports := by
    intro rs
    induction rs with
    | nil => simp
    | cons r rest ih =>
      intro merged
      rw [List.foldl_cons, ih, SortedSet.mem_union fun _ _ h => h, List.exists_mem_cons_iff,
        or_assoc]
  have hNone : x ∉ (Resolved.plain "").imports := List.not_mem_nil
  rw [merge, hFold]
  simp [hNone]

/-! ## Imports of the structure -/

/-- Whether a synchronous command is sent to the main thread. -/
def CommandView.isMainSync (c : CommandView) : Bool := !c.isAsync && c.dispatch == .main

/-- The imports for properties that are shown. -/
def flowImports : List String :=
  ["kotlinx.coroutines.flow.MutableStateFlow", "kotlinx.coroutines.flow.StateFlow",
    "kotlinx.coroutines.flow.asStateFlow"]

/-- The imports for properties that are written back. -/
def writeBackImports : List String :=
  ["kotlinx.coroutines.flow.drop", "kotlinx.coroutines.flow.launchIn",
    "kotlinx.coroutines.flow.onEach"]

theorem mem_kotlinImports {ps : List PropertyView} {cs : List CommandView} {x : String} :
    x ∈ kotlinImports ps cs ↔
      x ∈ ["androidx.lifecycle.ViewModel", "javax.inject.Inject"] ∨
      (ps ≠ [] ∧ x ∈ flowImports) ∨
      ((∃ p ∈ ps, p.isTwoWay = true) ∧ x ∈ writeBackImports) ∨
      (((∃ p ∈ ps, p.isTwoWay = true) ∨ ∃ c ∈ cs, c.isMainSync = true) ∧
        x = "androidx.lifecycle.viewModelScope") ∨
      ((∃ c ∈ cs, c.isMainSync = true) ∧ x = "kotlinx.coroutines.launch") ∨
      ((∃ c ∈ cs, c.isAsync = true) ∧ x = "kotlinx.coroutines.withContext") := by
  have hItems : ∀ (condition : Bool) (items : List String),
      x ∈ (if condition then items else []) ↔ condition = true ∧ x ∈ items := by
    intro condition items
    cases condition <;> simp
  have hFlow : x ∈ (if ps.isEmpty then [] else flowImports) ↔ ps ≠ [] ∧ x ∈ flowImports := by
    cases ps <;> simp
  unfold kotlinImports
  dsimp only
  rw [List.mem_append, List.mem_append, List.mem_append, List.mem_append, List.mem_append,
    hItems, hItems, hItems, hItems]
  simp only [or_assoc, Bool.or_eq_true, List.any_eq_true, List.mem_singleton]
  exact or_congr_right (or_congr_left hFlow)

/-- More members have more imports. -/
theorem structuralImports_subset {platform : Platform} {ps ps' : List PropertyView}
    {cs cs' : List CommandView} (hProperties : ps ⊆ ps') (hCommands : cs ⊆ cs') :
    structuralImports platform ps cs ⊆ structuralImports platform ps' cs' := by
  intro x hx
  cases platform with
  | ios => exact hx
  | android =>
    have hNonempty : ps ≠ [] → ps' ≠ [] := fun hNe hNil =>
      hNe (List.subset_nil.1 (hNil ▸ hProperties))
    have hTwoWay : (∃ p ∈ ps, p.isTwoWay = true) → ∃ p ∈ ps', p.isTwoWay = true :=
      fun ⟨p, hp, hIs⟩ => ⟨p, hProperties hp, hIs⟩
    have hMain : (∃ c ∈ cs, c.isMainSync = true) → ∃ c ∈ cs', c.isMainSync = true :=
      fun ⟨c, hc, hIs⟩ => ⟨c, hCommands hc, hIs⟩
    have hAsync : (∃ c ∈ cs, c.isAsync = true) → ∃ c ∈ cs', c.isAsync = true :=
      fun ⟨c, hc, hIs⟩ => ⟨c, hCommands hc, hIs⟩
    refine mem_kotlinImports.2 ((mem_kotlinImports.1 hx).imp_right ?_)
    exact Or.imp (And.imp_left hNonempty) <| Or.imp (And.imp_left hTwoWay) <|
      Or.imp (And.imp_left (Or.imp hTwoWay hMain)) <|
        Or.imp (And.imp_left hMain) (And.imp_left hAsync)

/-! ## Imports of assemblies -/

namespace Assembly

/-- Whether some command is not run where it is called. -/
def isDispatching (commands : List CommandPart) : Bool :=
  (commands.map (·.1)).any (·.dispatch != .inline)

theorem mem_imports_ofParts {t : Target} {package : String} {time : Calendar.UtcSecond}
    {v : ViewModel} {properties : List PropertyPart} {commands : List CommandPart} {x : String} :
    x ∈ (ofParts t package time v properties commands).content.imports ↔
      (∃ p ∈ properties, x ∈ p.2.1.imports) ∨
      (∃ c ∈ commands, ∃ r, c.2.1 = some r ∧ x ∈ r.imports) ∨
      x ∈ (t.reference v.qualifiedName).imports ∨
      (isDispatching commands = true ∧ x = Target.dispatchImport t.platform) ∨
      x ∈ structuralImports t.platform (properties.map (·.1)) (commands.map (·.1)) := by
  have hNeeds : x ∈ (Target.merge (properties.map (fun p => some p.2.1) ++ commands.map (·.2.1) ++
        [some (t.reference v.qualifiedName)])).imports ↔
      (∃ p ∈ properties, x ∈ p.2.1.imports) ∨
      (∃ c ∈ commands, ∃ r, c.2.1 = some r ∧ x ∈ r.imports) ∨
      x ∈ (t.reference v.qualifiedName).imports := by
    simp only [Target.mem_imports_merge, List.mem_append, List.mem_map, List.mem_singleton]
    constructor
    · rintro ⟨r, (⟨p, hp, hr⟩ | ⟨c, hc, hr⟩) | hr, hx⟩
      · cases hr
        exact .inl ⟨p, hp, hx⟩
      · exact .inr (.inl ⟨c, hc, r, hr, hx⟩)
      · cases hr
        exact .inr (.inr hx)
    · rintro (⟨p, hp, hx⟩ | ⟨c, hc, r, hr, hx⟩ | hx)
      · exact ⟨p.2.1, .inl (.inl ⟨p, hp, rfl⟩), hx⟩
      · exact ⟨r, .inl (.inr ⟨c, hc, hr⟩), hx⟩
      · exact ⟨_, .inr rfl, hx⟩
  have hDispatch : x ∈ (if isDispatching commands then [Target.dispatchImport t.platform]
      else []) ↔ isDispatching commands = true ∧ x = Target.dispatchImport t.platform := by
    split <;> simp_all
  have hMembers := ImportSet.mem_insertAll.trans (or_congr hNeeds hDispatch)
  refine (ImportSet.mem_insertAll.trans (or_congr_left hMembers)).trans ?_
  simp only [or_assoc]

end Assembly
end ViewAdapters
