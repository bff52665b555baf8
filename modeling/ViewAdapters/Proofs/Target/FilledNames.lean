import Mathlib.Data.List.Chain
import ViewAdapters.Proofs.Adapter.Findings
import ViewAdapters.Proofs.Adapter.SharedApi
import ViewAdapters.Proofs.Adapter.ShownTexts
import ViewAdapters.Proofs.Target.DateMapping
import ViewAdapters.Proofs.Target.LongestNamespace

/-!
# Names of types that are not empty

The name of a type is empty in one case: in Kotlin, a type of the source program whose whole name
is a namespace that is replaced by the empty text. The layers of a type add marks around a name,
but no list of nothing and no mark for what may be absent behind nothing.

* `name_reference_eq_empty_iff`, `name_resolve_eq_empty_iff`: in no other case a name is empty.
* `names_parts_ne_empty_iff`: the names of all parts of a type.
* `isFilled_resolve_iff`: layers are filled as what they are around.
* `isFilled_iff`: where nothing else has brackets or marks, only a lost name leaves them empty.
-/

namespace ViewAdapters

/-! ## Parts of types -/

namespace Descriptor

/-- Whether the type of the source program inside the layers has segments that are not empty. -/
def IsSegmented (d : Descriptor) : Prop :=
  ∀ name, d.leaf = .reference name → ViewAdapters.IsSegmented name

/-- A type with all that is inside its layers. -/
def parts : Descriptor → List Descriptor
  | .nullable d => .nullable d :: d.parts
  | .collection d => .collection d :: d.parts
  | d => [d]

theorem leaf_of_mem_parts {d part : Descriptor} (h : part ∈ d.parts) : part.leaf = d.leaf := by
  induction d with
  | nullable d ih =>
    rcases List.mem_cons.1 h with rfl | h
    · rfl
    · exact ih h
  | collection d ih =>
    rcases List.mem_cons.1 h with rfl | h
    · rfl
    · exact ih h
  | primitive | reference | foreign => rw [List.mem_singleton.1 h]

theorem leaf_mem_parts (d : Descriptor) : d.leaf ∈ d.parts := by
  induction d with
  | nullable d ih => exact List.mem_cons_of_mem _ ih
  | collection d ih => exact List.mem_cons_of_mem _ ih
  | primitive | reference | foreign => exact List.mem_singleton_self _

theorem isSegmented_parts {d part : Descriptor} (h : part ∈ d.parts) (hName : d.IsSegmented) :
    part.IsSegmented :=
  fun name hLeaf => hName name (leaf_of_mem_parts h ▸ hLeaf)

end Descriptor

namespace Target

open NamespaceTable (Holds IsUnique Decides longest?_eq_none_iff longest?_eq_some_iff)

/-! ## Names that are lost -/

/-- Whether nothing is left of a name: all of it is a namespace that Kotlin replaces by the empty
text. -/
def Erases (t : Target) (name : String) : Prop :=
  t.platform = .android ∧ (name, "") ∈ t.namespaces

/-- Whether the name at the leaf of a type is not lost. -/
def KeepsName (t : Target) (d : Descriptor) : Prop :=
  ∀ name, d.leaf = .reference name → ¬t.Erases name

section Empty

variable {t : Target} {name : String}

/-- No namespace that holds a name is longer than the name itself. -/
theorem decides_self {target : String} (h : (name, target) ∈ t.namespaces) :
    t.namespaces.Decides name (name, target) := by
  refine ⟨h, .inl rfl, fun f _ hHolds => ?_⟩
  rw [← String.length_toList, ← String.length_toList]
  exact hHolds.isPrefix.length_le

theorem append_dot_ne (source rest : String) : source ++ "." ++ rest ≠ source := by
  intro hSame
  have hLength := congrArg String.length hSame
  rw [String.length_append, String.length_append] at hLength
  have hDot : ".".length = 1 := by decide
  omega

/-- Only the name itself has nothing behind it. -/
theorem afterNamespace_eq_empty_iff {source : String} (hName : IsSegmented name)
    (h : Holds source name) : afterNamespace source name = "" ↔ name = source := by
  rcases h with rfl | ⟨rest, rfl⟩
  · exact iff_of_true (afterNamespace_self name) rfl
  · have hRest := isSegmented_rest hName
    rw [afterNamespace_append hRest]
    exact iff_of_false (ne_empty_of_isSegmented hRest) (append_dot_ne source rest)

/-- With nothing in place of a namespace, Kotlin keeps what follows it and Swift the last
segment. -/
theorem name_reference_of_empty (hUnique : t.namespaces.IsUnique) {source : String}
    (h : t.namespaces.Decides name (source, "")) :
    (t.platform = .android → (t.reference name).name = afterNamespace source name) ∧
      (t.platform = .ios → (t.reference name).name = Descriptor.simpleName name) := by
  have hReference : t.reference name = replaced t.platform source "" name := by
    rw [reference, (longest?_eq_some_iff hUnique).2 h]
  rw [hReference]
  constructor <;> intro hPlatform <;> rw [hPlatform] <;> rfl

theorem name_reference_ne_empty (hUnique : t.namespaces.IsUnique) (hName : IsSegmented name)
    {e : String × String} (h : t.namespaces.Decides name e) (hTarget : e.2 ≠ "") :
    (t.reference name).name ≠ "" := by
  obtain ⟨hAndroid, hIos⟩ := reference_of_decides hUnique hName h hTarget
  cases hPlatform : t.platform with
  | ios =>
    rw [hIos hPlatform]
    exact append_ne_empty_left (append_ne_empty_left hTarget)
  | android =>
    obtain ⟨rest, -, hReference⟩ := hAndroid hPlatform
    rw [hReference]
    exact append_ne_empty_left hTarget

theorem name_reference_eq_empty_iff (hUnique : t.namespaces.IsUnique) (hName : IsSegmented name) :
    (t.reference name).name = "" ↔ t.Erases name := by
  cases hLongest : t.namespaces.longest? name with
  | none =>
    rw [reference_none hLongest]
    refine iff_of_false (simpleName_ne_empty hName) fun hErases => ?_
    exact longest?_eq_none_iff.1 hLongest _ hErases.2 (.inl rfl)
  | some e =>
    obtain ⟨source, target⟩ := e
    have hDecides := (longest?_eq_some_iff hUnique).1 hLongest
    -- An entry for the name itself is the one that decides.
    have hSelf {other : String} (hMem : (name, other) ∈ t.namespaces) :
        name = source ∧ other = target :=
      Prod.mk.inj ((decides_self hMem).unique hUnique hDecides)
    by_cases hTarget : target = ""
    · subst hTarget
      obtain ⟨hAndroid, hIos⟩ := name_reference_of_empty hUnique hDecides
      cases hPlatform : t.platform with
      | ios =>
        rw [hIos hPlatform]
        exact iff_of_false (simpleName_ne_empty hName) fun h => nomatch hPlatform.symm.trans h.1
      | android =>
        rw [hAndroid hPlatform, afterNamespace_eq_empty_iff hName hDecides.holds]
        exact ⟨fun hSame => ⟨hPlatform, hSame ▸ hDecides.mem⟩, fun h => (hSelf h.2).1⟩
    · exact iff_of_false (name_reference_ne_empty hUnique hName hDecides hTarget)
        fun h => hTarget (hSelf h.2).2.symm

end Empty

/-! ## Names inside names -/

section Filled

variable {t : Target} {semantics : Option DateSemantics} {member name : String} {d : Descriptor}

theorem name_inLayer_ne_empty (platform : Platform) (layer : Descriptor.Layer) (name : String) :
    layerName platform name layer ≠ "" := by
  cases layer with
  | nullable =>
    rw [layerName, optionalOf]
    split
    · rename_i hMark
      rintro rfl
      exact absurd hMark (by decide)
    · exact append_ne_empty_right (by decide)
  | collection =>
    cases platform <;> exact append_ne_empty_left (append_ne_empty_left (by decide))

/-- The name of a type is empty only if the type is one of the source program and its name is
lost. -/
theorem name_resolve_eq_empty_iff (hUnique : t.namespaces.IsUnique) (hName : d.IsSegmented)
    {r : Resolution} (h : t.resolve semantics member d = .ok r) :
    r.1.name = "" ↔ ∃ name, d = .reference name ∧ t.Erases name := by
  cases d with
  | primitive kind =>
    cases h
    exact iff_of_false (name_ne_empty_of_scalar t.platform semantics member kind) (by simp)
  | nullable d =>
    obtain ⟨inner, -, rfl⟩ := map_eq_ok.1 h
    exact iff_of_false (name_inLayer_ne_empty t.platform .nullable _) (by simp)
  | collection d =>
    obtain ⟨inner, -, rfl⟩ := map_eq_ok.1 h
    exact iff_of_false (name_inLayer_ne_empty t.platform .collection _) (by simp)
  | reference name =>
    cases h
    rw [name_reference_eq_empty_iff hUnique (hName name rfl)]
    simp
  | foreign literal => cases h

/-- The names of all parts of a type have something in them unless the name at the leaf is
lost. -/
theorem names_parts_ne_empty_iff (hUnique : t.namespaces.IsUnique) (hName : d.IsSegmented)
    (hType : d.isType = true) :
    (∀ part ∈ d.parts, ∃ r, t.resolve semantics member part = .ok r ∧ r.1.name ≠ "") ↔
      t.KeepsName d := by
  constructor
  · intro hParts name hLeaf hErases
    obtain ⟨r, hResolve, hFilled⟩ := hParts d.leaf d.leaf_mem_parts
    have hLeafName := Descriptor.isSegmented_parts d.leaf_mem_parts hName
    exact hFilled ((name_resolve_eq_empty_iff hUnique hLeafName hResolve).2 ⟨name, hLeaf, hErases⟩)
  · intro hKept part hPart
    have hLeaf := Descriptor.leaf_of_mem_parts hPart
    have hPartType : part.isType = true := by rwa [Descriptor.isType, hLeaf]
    obtain ⟨r, hResolve⟩ := exists_resolve_iff.2 hPartType
    have hPartName := Descriptor.isSegmented_parts hPart hName
    refine ⟨r, hResolve, fun hEmpty => ?_⟩
    obtain ⟨name, rfl, hErases⟩ := (name_resolve_eq_empty_iff hUnique hPartName hResolve).1 hEmpty
    exact hKept name hLeaf.symm hErases

end Filled

/-! ## Text inside brackets -/

/-- Whether something has to be behind a character, and whether something has to be in front of
it. -/
def demands (c : Char) : Bool × Bool := (c == '<' || c == '[', c == '>' || c == ']' || c == '?')

/-- Whether nothing is where two neighbours have something between them. -/
def isGap (a b : Char) : Bool := (demands a).1 && (demands b).2

/-- Whether a name that is put in brackets has something in all brackets and in front of each
`?`. -/
def IsFilled (name : String) : Prop :=
  ('[' :: name.toList ++ [']']).IsChain fun a b => isGap a b = false

instance (name : String) : Decidable (IsFilled name) :=
  inferInstanceAs (Decidable (List.IsChain _ _))

section Brackets

variable {name : String}

/-- Which brackets are around a name does not matter: neighbours are told apart by what they
demand. -/
theorem isChain_between {a a' b b' : Char} (ha : demands a = demands a')
    (hb : demands b = demands b') (cs : List Char) :
    (a :: cs ++ [b]).IsChain (fun a b => isGap a b = false) ↔
      (a' :: cs ++ [b']).IsChain fun a b => isGap a b = false := by
  have hMap : (a :: cs ++ [b]).map demands = (a' :: cs ++ [b']).map demands := by simp [ha, hb]
  have hChain := @List.isChain_map _ _ (fun x y : Bool × Bool => (x.1 && y.2) = false) demands
  exact hChain.symm.trans (hMap ▸ hChain)

theorem isFilled_optionalOf : IsFilled (optionalOf name) ↔ IsFilled name := by
  unfold optionalOf
  split
  · rfl
  · have hChars : '[' :: (name ++ "?").toList ++ [']'] = '[' :: name.toList ++ '?' :: [']'] := by
      simp [String.toList_append]
    rw [IsFilled, hChars, List.isChain_split, and_iff_left (by decide)]
    exact isChain_between (by decide) (by decide) _

theorem isFilled_listOf (platform : Platform) :
    IsFilled (listOf platform name) ↔ IsFilled name := by
  cases platform with
  | android =>
    have hChars : '[' :: (listOf .android name).toList ++ [']'] =
        "[List".toList ++ '<' :: (name.toList ++ '>' :: [']']) := by
      simp [listOf, String.toList_append]
    rw [IsFilled, hChars, List.isChain_split, and_iff_right (by decide), ← List.cons_append,
      List.isChain_split, and_iff_left (by decide)]
    exact isChain_between (by decide) (by decide) _
  | ios =>
    have hChars : '[' :: (listOf .ios name).toList ++ [']'] =
        ['['] ++ '[' :: (name.toList ++ ']' :: [']']) := by
      simp [listOf, String.toList_append]
    rw [IsFilled, hChars, List.isChain_split, and_iff_right (by decide), ← List.cons_append,
      List.isChain_split, and_iff_left (by decide)]
    rfl

theorem isFilled_foldr_layerName (platform : Platform) (layers : List Descriptor.Layer) :
    IsFilled (layers.foldr (fun layer name => layerName platform name layer) name) ↔
      IsFilled name := by
  induction layers with
  | nil => rfl
  | cons layer rest ih =>
    refine Iff.trans ?_ ih
    cases layer with
    | nullable => exact isFilled_optionalOf
    | collection => exact isFilled_listOf platform

/-- The brackets in names and the mark of what may be absent. -/
def nameMarks : List Char := ['<', '>', '[', ']', '?']

theorem demands_of_not_mem {c : Char} (h : c ∉ nameMarks) : demands c = (false, false) := by
  simp only [nameMarks, List.mem_cons, List.not_mem_nil, or_false, not_or] at h
  simp [demands, h]

theorem isFilled_of_lacks (hPlain : Lacks nameMarks name) (hName : name ≠ "") :
    IsFilled name := by
  have hRest : ∀ cs : List Char, (∀ c ∈ cs, c ∉ nameMarks) →
      (cs ++ [']']).IsChain fun a b => isGap a b = false := by
    intro cs hcs
    induction cs with
    | nil => exact .singleton _
    | cons c rest ih =>
      rw [List.forall_mem_cons] at hcs
      rw [List.cons_append, List.isChain_cons]
      exact ⟨fun b _ => by rw [isGap, demands_of_not_mem hcs.1, Bool.false_and], ih hcs.2⟩
  obtain ⟨c, rest, hChars⟩ := List.exists_cons_of_ne_nil (mt String.toList_eq_nil_iff.1 hName)
  have hStart : c ∉ nameMarks := hPlain c (hChars ▸ List.mem_cons_self)
  have hAll := hRest name.toList hPlain
  rw [hChars] at hAll
  rw [IsFilled, hChars]
  exact .cons_cons (by rw [isGap, demands_of_not_mem hStart, Bool.and_false]) hAll

end Brackets

section Resolved

variable {t : Target} {semantics : Option DateSemantics} {member name : String} {d : Descriptor}

theorem lacks_reference {banned : List Char} (hDot : '.' ∉ banned) (hName : Lacks banned name)
    (hTargets : ∀ e ∈ t.namespaces, Lacks banned e.2) : Lacks banned (t.reference name).name := by
  have hPoint : Lacks banned "." := by
    intro c hc
    rw [List.mem_singleton.1 hc]
    exact hDot
  unfold reference
  split
  · exact lacks_simpleName hName
  · rename_i source target hLongest
    have hTarget : Lacks banned target := hTargets _ (NamespaceTable.longest?_covers hLongest).2
    have hRest := lacks_afterNamespace source hName
    have hSimple := lacks_simpleName hName
    unfold replaced
    split <;> dsimp only <;> (repeat' split)
    · exact hRest
    · exact hTarget
    · exact (hTarget.append hPoint).append hRest
    · exact hSimple
    · exact (hTarget.append hPoint).append hSimple

theorem isFilled_scalar (platform : Platform) (semantics : Option DateSemantics)
    (member kind : String) : IsFilled (resolveScalar platform semantics member kind).1.name := by
  have hTable : ∀ e ∈ scalars platform, IsFilled e.2 := by cases platform <;> decide
  refine resolveScalar_induction (motive := (IsFilled ·.name)) (fun date => ?_) hTable
    (by decide : IsFilled fallbackType) semantics member kind
  cases platform <;> cases date <;> decide

/-- Layers are filled as what they are around. -/
theorem isFilled_resolve_iff {r leaf : Resolution} (h : t.resolve semantics member d = .ok r)
    (hLeaf : t.resolve semantics member d.leaf = .ok leaf) :
    IsFilled r.1.name ↔ IsFilled leaf.1.name := by
  rw [resolve_layers, hLeaf] at h
  cases h
  rw [inLayers_foldr]
  exact isFilled_foldr_layerName _ _

/-- Names of types without brackets and marks of their own are filled unless the name at the leaf
is lost. -/
theorem isFilled_iff (hUnique : t.namespaces.IsUnique) (hName : d.IsSegmented)
    (hPlain : ∀ name, d.leaf = .reference name → Lacks nameMarks name)
    (hTargets : ∀ e ∈ t.namespaces, Lacks nameMarks e.2) {r : Resolution}
    (h : t.resolve semantics member d = .ok r) :
    IsFilled r.1.name ↔ t.KeepsName d := by
  induction d generalizing r with
  | primitive kind =>
    cases h
    exact iff_of_true (isFilled_scalar t.platform semantics member kind)
      (by simp [KeepsName, Descriptor.leaf])
  | nullable d ih =>
    obtain ⟨inner, hInner, rfl⟩ := map_eq_ok.1 h
    exact isFilled_optionalOf.trans (ih hName hPlain hInner)
  | collection d ih =>
    obtain ⟨inner, hInner, rfl⟩ := map_eq_ok.1 h
    exact (isFilled_listOf t.platform).trans (ih hName hPlain hInner)
  | reference name =>
    cases h
    have hEmpty := name_reference_eq_empty_iff hUnique (hName name rfl)
    constructor
    · intro hFilled other hOther hErases
      cases hOther
      rw [hEmpty.2 hErases] at hFilled
      exact absurd hFilled (by decide)
    · intro hKept
      exact isFilled_of_lacks (lacks_reference (by decide) (hPlain name rfl) hTargets)
        fun hLost => hKept name rfl (hEmpty.1 hLost)
  | foreign literal => cases h

end Resolved

end Target
end ViewAdapters
