import ViewAdapters.Proofs.Adapter.FittingLines
import ViewAdapters.Proofs.Target.ResolvedTypes

/-!
# Types in Kotlin adapters

The names of target types and the expressions that convert their values: they take no name from
the imports of the adapter's own text, and the imports of a type are shown by its name.

* `Target.transfers_displays`: a resolved type fits and shows what it imports.
* `Target.fits_convertValue`, `Target.fits_convertElements`: an expression that converts a value
  fits.
-/

namespace ViewAdapters

namespace Target

variable {known : String → Prop}

/-! ## Names of types -/

theorem fits_simpleName {qualifiedName : String} (h : Fits known qualifiedName) :
    Fits known (Descriptor.simpleName qualifiedName) := by
  unfold Descriptor.simpleName Text.lastSegment
  rcases Text.exists_front_lastSegment qualifiedName.toList with hAll | ⟨front, hSplit⟩
  · rwa [hAll, String.ofList_toList]
  · exact h.of_suffix (c := '.') (by rwa [String.toList_ofList]) (by decide)

theorem fits_afterNamespace {source name : String} (hCovers : NamespaceTable.covers source name)
    (h : Fits known name) : Fits known (afterNamespace source name) := by
  unfold afterNamespace
  unfold NamespaceTable.covers at hCovers
  rcases Bool.or_eq_true _ _ ▸ hCovers with hSame | hInside
  · rw [beq_iff_eq.1 hSame, ← String.length_toList, List.drop_length]
    exact .empty
  · obtain ⟨rest, hRest⟩ := List.isPrefixOf_iff_prefix.1 hInside
    obtain ⟨front, hFront⟩ := Text.exists_front_dropDots rest
    have hDrop : name.toList.drop source.length = '.' :: rest := by
      rw [← hRest, ← String.length_toList, List.append_assoc, List.drop_left]
      rfl
    have hSplit : name.toList =
        (source.toList ++ front) ++ '.' :: rest.dropWhile (· == '.') := by
      rw [← hRest, List.append_assoc, List.append_assoc, ← hFront]
      rfl
    rw [hDrop, List.dropWhile_cons_of_pos (by decide)]
    exact h.of_suffix (c := '.') (by rwa [String.toList_ofList]) (by decide)

theorem fits_reference (hPlain : Admits known []) {namespaces : NamespaceTable}
    (hTargets : ∀ e ∈ namespaces, Fits known e.2) {qualifiedName : String}
    (h : Fits known qualifiedName) :
    Fits known ((⟨.android, namespaces⟩ : Target).reference qualifiedName).name := by
  unfold reference
  split
  · exact fits_simpleName h
  · rename_i source target hLongest
    obtain ⟨hCovers, hIn⟩ := NamespaceTable.longest?_covers hLongest
    have hRest := fits_afterNamespace hCovers h
    simp only [replaced, Resolved.plain]
    split
    · exact hRest
    · split
      · exact hTargets _ hIn
      · exact hPlain.join (hTargets _ hIn) hRest (by decide)

/-! ## Resolved types -/

/-- A type whose name fits and has the last segments of its imports as words. -/
structure Resolved.Displays (known : String → Prop) (r : Resolved) : Prop where
  fits : Fits known r.name
  shown : ∀ i ∈ r.imports, '\n' ∉ i.toList ∧ Text.lastSegment i ∈ words r.name

theorem displays_plain {name : String} (h : Fits known name) :
    (Resolved.plain name).Displays known :=
  ⟨h, fun _ hi => absurd hi List.not_mem_nil⟩

theorem displays_reference (hPlain : Admits known []) {namespaces : NamespaceTable}
    (hTargets : ∀ e ∈ namespaces, Fits known e.2) {qualifiedName : String}
    (h : Fits known qualifiedName) :
    ((⟨.android, namespaces⟩ : Target).reference qualifiedName).Displays known where
  fits := fits_reference hPlain hTargets h
  shown i hi := by
    rw [reference_android_imports] at hi
    exact absurd hi List.not_mem_nil

/-- The import that a word of a type name requires ends with that word. -/
theorem displays_named {name : String} (h : Fits known name) :
    (named .android name).Displays known where
  fits := h
  shown i hi := by
    have hTable : ∀ e ∈ androidRequirements,
        '\n' ∉ e.2.importLine.toList ∧ Text.lastSegment e.2.importLine = e.1 := by
      decide
    obtain ⟨word, hWord, capability, hRequired⟩ := mem_named_imports.1 hi
    have hLine := hTable _ (SortedMap.mem_of_lookup hRequired)
    exact ⟨hLine.1, hLine.2 ▸ hWord⟩

theorem displays_scalar (hPlain : Admits known []) (semantics : Option DateSemantics)
    (member kind : String) :
    (resolveScalar .android semantics member kind).1.Displays known := by
  have hDate : ∀ date, Fits known (dateType .android date) := by
    intro date
    cases date <;> exact hPlain.fits (by decide)
  have hTable : ∀ e ∈ androidScalars, Fits known e.2 := by
    simp only [androidScalars, List.forall_mem_cons]
    refine ⟨hPlain.fits ?_, hPlain.fits ?_, hPlain.fits ?_, hPlain.fits ?_, hPlain.fits ?_,
      hPlain.fits ?_, hPlain.fits ?_, hPlain.fits ?_, hPlain.fits ?_, hPlain.fits ?_,
      hPlain.fits ?_, hPlain.fits ?_, hPlain.fits ?_, hPlain.fits ?_, hPlain.fits ?_,
      hPlain.fits ?_, hPlain.fits ?_, by simp⟩ <;> decide
  exact resolveScalar_induction (fun date => displays_named (hDate date))
    (fun e he => displays_named (hTable e he)) (displays_plain (hPlain.fits (by decide)))
    semantics member kind

/-- A layer around a type keeps its words. -/
theorem displays_inLayer (hPlain : Admits known []) (layer : Descriptor.Layer) {r : Resolution}
    (h : r.1.Displays known) : (r.inLayer .android layer).1.Displays known := by
  cases layer with
  | nullable =>
    simp only [Resolution.inLayer, Resolved.wrap, layerName, optionalOf]
    split
    · exact h
    · have hWords : words (r.1.name ++ "?") = words r.1.name ++ words "?" :=
        words_append (.inr (startsWithBreak_ofList (by decide)))
      exact ⟨hPlain.behind h.fits (by decide), fun i hi =>
        ⟨(h.shown i hi).1, hWords ▸ List.mem_append_left _ (h.shown i hi).2⟩⟩
  | collection =>
    have hWord : ∀ w ∈ words r.1.name, w ∈ words ("List<" ++ r.1.name ++ ">") := fun w hw =>
      mem_words_first (by decide) (.inr (.inl hw))
    exact ⟨hPlain.behind (hPlain.before h.fits (by decide)) (by decide), fun i hi =>
      ⟨(h.shown i hi).1, hWord _ (h.shown i hi).2⟩⟩

/-- Resolution makes types that show what they import from texts that fit. -/
theorem transfers_displays (hPlain : Admits known []) {namespaces : NamespaceTable}
    (hTargets : ∀ e ∈ namespaces, Fits known e.2) :
    (⟨.android, namespaces⟩ : Target).Transfers (Fits known) (Resolved.Displays known) where
  named := displays_named
  reference := displays_reference hPlain hTargets
  scalar := displays_scalar hPlain
  inLayer layer _ := displays_inLayer hPlain layer

/-! ## Expressions -/

theorem fits_closure (hPlain : Admits known []) {value call body : String}
    (hCall : ∀ s, Fits known s → Fits known (s ++ call)) (hValue : Fits known value)
    (hBody : Fits known body) : Fits known (Expr.closure value call body) :=
  hPlain.behind (hPlain.join (hCall value hValue) hBody (by decide)) (by decide)

/-- A template that keeps values fitting does so wherever the scalars of a value are. -/
theorem fits_mapLeaf (hPlain : Admits known []) {template : Template}
    (hTemplate : ∀ s, Fits known s → Fits known (template.fill s)) (d : Descriptor) {value : Expr}
    (hValue : Fits known (value.text .android)) :
    Fits known ((Expr.mapLeaf template value d).text .android) := by
  have hItem : Fits known (Expr.item.text .android) := hPlain.fits (by decide)
  have hLet : ∀ s, Fits known s → Fits known (s ++ Expr.ifPresentCall .android) :=
    fun s hs => hPlain.behind hs (by decide)
  have hMap : ∀ s, Fits known s → Fits known (s ++ ".map") :=
    fun s hs => hPlain.behind hs (by decide)
  induction d generalizing value with
  | nullable d ih => exact fits_closure hPlain hLet hValue (ih hItem)
  | collection d ih => exact fits_closure hPlain hMap hValue (ih hItem)
  | reference qualifiedName => exact hValue
  | primitive kind => exact hTemplate _ hValue
  | foreign literal => exact hTemplate _ hValue

theorem fits_convert (hPlain : Admits known []) {template : Template}
    (hTemplate : ∀ s, Fits known s → Fits known (template.fill s)) (d : Descriptor) {s : String}
    (hs : Fits known s) : Fits known ((Expr.convert template d (.given s)).text .android) := by
  unfold Expr.convert
  split
  · exact hs
  · exact fits_mapLeaf hPlain hTemplate d hs

theorem fits_parsed (hPlain : Admits known []) {typeName s : String}
    (hType : Fits known typeName) (hs : Fits known s) :
    Fits known ((parsed typeName).fill s) := by
  rw [parsed, Template.fill_around]
  exact hPlain.behind (hPlain.join hType hs (by decide)) (by decide)

theorem fits_fill_toTarget (hPlain : Admits known []) (semantics : DateSemantics) {s : String}
    (hs : Fits known s) : Fits known ((toTarget .android semantics).fill s) := by
  cases semantics <;> exact fits_parsed hPlain (hPlain.fits (by decide)) hs

theorem fits_fill_toSource (hPlain : Admits known []) (semantics : DateSemantics) {s : String}
    (hs : Fits known s) : Fits known ((toSource .android semantics).fill s) := by
  rw [toSource, Template.fill_around, String.empty_append]
  exact hPlain.behind hs (by decide)

theorem fits_convertValue (hPlain : Admits known [])
    {templates : Platform → DateSemantics → Template}
    (hTemplates : ∀ semantics s, Fits known s →
      Fits known ((templates .android semantics).fill s))
    (p : Property) {s : String} (hs : Fits known s) :
    Fits known ((convertValue templates .android p s).text .android) := by
  unfold convertValue
  split
  · exact hs
  · split
    · exact hs
    · exact fits_convert hPlain (hTemplates _) p.type hs

theorem fits_convertElements (hPlain : Admits known []) {p : Property} {s : String} {e : Expr}
    (hs : Fits known s) (h : convertElements .android p s = some e) :
    Fits known (e.text .android) := by
  unfold convertElements at h
  cases hSemantics : conversionSemantics .android p with
  | none => simp [hSemantics] at h
  | some semantics =>
    cases hElement : p.element with
    | none => simp [hSemantics, hElement] at h
    | some element =>
      simp only [hSemantics, hElement, Option.bind_eq_bind, Option.bind_some] at h
      split at h
      · contradiction
      · cases h
        exact fits_convert hPlain (fun s => fits_fill_toTarget hPlain semantics)
          (.collection element) hs

end Target
end ViewAdapters
