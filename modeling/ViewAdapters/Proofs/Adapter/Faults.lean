import ViewAdapters.Proofs.Adapter.Findings

/-!
# Faults of standard backends

Without user templates, and for a view-model whose descriptors are all types, one thing alone
keeps a backend from making an adapter: the size of batches that a property tells can have
too many digits for a text.

* `exists_of_mapM_eq_error`: a traversal fails as one of its items does.
* `Backend.generate_eq_error_iff`: when an adapter is not made, and what is said of it.
-/

namespace ViewAdapters

section Steps

variable {ε α β : Type}

theorem exists_of_mapM_eq_error {f : α → Except ε β} {xs : List α} {e : ε}
    (h : xs.mapM f = .error e) : ∃ x ∈ xs, f x = .error e := by
  induction xs with
  | nil => cases h
  | cons x xs ih =>
    rw [List.mapM_cons] at h
    rcases bind_eq_error.1 h with hHead | ⟨y, -, hRest⟩
    · exact ⟨x, by simp, hHead⟩
    · rcases bind_eq_error.1 hRest with hTail | ⟨ys, -, hEnd⟩
      · obtain ⟨x', hx', hFault⟩ := ih hTail
        exact ⟨x', List.mem_cons_of_mem _ hx', hFault⟩
      · cases hEnd

end Steps

namespace Assembly

variable {t : Target}

/-- A property with a type has a part, unless a number in it has no text. -/
theorem fault_of_propertyPart {p : Property}
    (hResolved : ∃ r, t.resolveWithin p p.shownType = .ok r) {fault : Fault}
    (h : propertyPart t p = .error fault) : fault = .numeral .tooLong := by
  obtain ⟨r, hType⟩ := Target.exists_propertyType_iff.2 hResolved
  obtain ⟨element, hElement⟩ := exists_viewedElement hResolved
  unfold propertyPart at h
  rw [hType, hElement] at h
  rcases bind_eq_error.1 h with hNever | ⟨r', hSame, h⟩
  · cases hNever
  cases hSame
  rcases bind_eq_error.1 h with hNever | ⟨element', hSame, h⟩
  · cases hNever
  cases hSame
  rcases bind_eq_error.1 h with hView | ⟨view, -, hNever⟩
  · cases hShown : PropertyView.of t.platform p r.1.name (element.map (·.1.name)) with
    | ok view =>
      rw [hShown] at hView
      cases hView
    | error numeral =>
      rw [hShown] at hView
      cases hView
      cases numeral
      rfl
  · cases hNever

/-- Types never keep the parts of a view-model from being made. -/
theorem fault_of_make {package : String} {time : Calendar.UtcSecond} {v : ViewModel}
    (hTyped : v.IsTyped) {fault : Fault} (h : make t package time v = .error fault) :
    fault = .numeral .tooLong := by
  rcases bind_eq_error.1 h with hProperties | ⟨properties, -, h⟩
  · obtain ⟨p, hp, hFault⟩ := exists_of_mapM_eq_error hProperties
    exact fault_of_propertyPart (hTyped.exists_resolveWithin t p hp) hFault
  rcases bind_eq_error.1 h with hCommands | ⟨commands, -, hNever⟩
  · obtain ⟨c, hc, hFault⟩ := exists_of_mapM_eq_error hCommands
    obtain ⟨part, hPart⟩ := hTyped.exists_commandPart t c hc
    rw [hPart] at hFault
    cases hFault
  · cases hNever

end Assembly

namespace Backend

variable {b : Backend} {v : ViewModel} {fault : GenerationFault UserTemplate.Fault}

theorem fault_of_generate (hStandard : b.templates = []) (hTyped : v.IsTyped)
    (h : b.generate v = .error fault) : fault = .numeral .tooLong := by
  rcases bind_eq_error.1 h with hMake | ⟨assembly, -, hRest⟩
  · obtain ⟨fault', hFault, rfl⟩ := mapError_eq_error.1 hMake
    rw [Assembly.fault_of_make hTyped hFault]
    rfl
  rcases bind_eq_error.1 hRest with hText | ⟨text, -, hNever⟩
  · rw [UserTemplate.renderer, hStandard, UserTemplate.render_standard] at hText
    cases hText
  · cases hNever

/-- A standard backend makes no adapter of a view-model of types exactly if a size of batches
has no text, and says so. -/
theorem generate_eq_error_iff (hStandard : b.templates = []) (hTyped : v.IsTyped) :
    b.generate v = .error fault ↔
      ¬ v.HasShortBatches b.platform ∧ fault = .numeral .tooLong := by
  rw [← exists_generate_of_isTyped hStandard hTyped]
  cases hGenerate : b.generate v with
  | ok a => simp
  | error fault' =>
    have hFault := fault_of_generate hStandard hTyped hGenerate
    simp [hFault, eq_comm]

end Backend
end ViewAdapters
