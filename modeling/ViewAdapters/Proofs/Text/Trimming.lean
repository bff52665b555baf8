import Mathlib.Data.List.TakeWhile
import ViewAdapters.Text.Blank

/-!
# Trimmed texts

* `exists_blanks_trimChars`: a text is its trimmed text with blanks around it.
* `trimChars_around`: blanks around a text do not change its trimmed text.
* `trimChars_append`: a text with an ending behind it is trimmed at its start alone.
* `trimChars_idem`: a trimmed text is its own trimmed text.
-/

namespace ViewAdapters.Text

/-- A text of blanks alone. -/
def IsBlank (cs : List Char) : Prop := ∀ c ∈ cs, isBlank c = true

theorem trimStartChars_append {cs r : List Char} (h : trimStartChars cs ≠ []) :
    trimStartChars (cs ++ r) = trimStartChars cs ++ r := by
  have hNot : ¬(cs.dropWhile isBlank).isEmpty = true := fun hEmpty => h (List.isEmpty_iff.1 hEmpty)
  rw [trimStartChars, List.dropWhile_append, if_neg hNot]
  rfl

theorem isBlank_of_trimStartChars {cs : List Char} (h : trimStartChars cs = []) : IsBlank cs :=
  fun _ hc => List.dropWhile_eq_nil_iff.1 h _ hc

section Around

variable {before after : List Char}

theorem trimStartChars_behind (h : IsBlank before) (cs : List Char) :
    trimStartChars (before ++ cs) = trimStartChars cs :=
  List.dropWhile_append_of_pos h

theorem trimEndChars_before (h : IsBlank after) (cs : List Char) :
    trimEndChars (cs ++ after) = trimEndChars cs := by
  have hReverse : ∀ c ∈ after.reverse, isBlank c = true := fun c hc =>
    h c (List.mem_reverse.1 hc)
  rw [trimEndChars, List.reverse_append, List.dropWhile_append_of_pos hReverse]
  rfl

/-- Blanks around a text do not change its trimmed text. -/
theorem trimChars_around (hBefore : IsBlank before) (hAfter : IsBlank after) (cs : List Char) :
    trimChars (before ++ (cs ++ after)) = trimChars cs := by
  rw [trimChars, trimStartChars_behind hBefore]
  by_cases hBlank : trimStartChars cs = []
  · have hAll : IsBlank (cs ++ after) := fun c hc =>
      (List.mem_append.1 hc).elim (isBlank_of_trimStartChars hBlank c) (hAfter c)
    rw [trimStartChars_of_forall_blank hAll,
      trimChars_of_forall_blank (isBlank_of_trimStartChars hBlank)]
    rfl
  · rw [trimStartChars_append hBlank, trimEndChars_before hAfter, trimChars]

end Around

theorem exists_blanks_trimStartChars (cs : List Char) :
    ∃ before, IsBlank before ∧ cs = before ++ trimStartChars cs :=
  ⟨cs.takeWhile isBlank, fun _ hc => List.mem_takeWhile_imp hc,
    List.takeWhile_append_dropWhile.symm⟩

theorem exists_blanks_trimEndChars (cs : List Char) :
    ∃ after, IsBlank after ∧ cs = trimEndChars cs ++ after := by
  obtain ⟨before, hBefore, hSplit⟩ := exists_blanks_trimStartChars cs.reverse
  refine ⟨before.reverse, fun c hc => hBefore c (List.mem_reverse.1 hc), ?_⟩
  have hReverse := congrArg List.reverse hSplit
  rwa [List.reverse_reverse, List.reverse_append] at hReverse

/-- A text is its trimmed text with blanks around it. -/
theorem exists_blanks_trimChars (cs : List Char) :
    ∃ before after, IsBlank before ∧ IsBlank after ∧ cs = before ++ (trimChars cs ++ after) := by
  obtain ⟨before, hBefore, hStart⟩ := exists_blanks_trimStartChars cs
  obtain ⟨after, hAfter, hEnd⟩ := exists_blanks_trimEndChars (trimStartChars cs)
  exact ⟨before, after, hBefore, hAfter, by rw [trimChars, ← hEnd, ← hStart]⟩

/-- A trimmed text is its own trimmed text. -/
@[simp] theorem trimChars_idem (cs : List Char) : trimChars (trimChars cs) = trimChars cs := by
  obtain ⟨before, after, hBefore, hAfter, hSplit⟩ := exists_blanks_trimChars cs
  calc trimChars (trimChars cs) = trimChars (before ++ (trimChars cs ++ after)) :=
      (trimChars_around hBefore hAfter _).symm
    _ = trimChars cs := by rw [← hSplit]

theorem trimChars_trimStartChars (cs : List Char) :
    trimChars (trimStartChars cs) = trimChars cs := by
  rw [trimChars, trimStartChars_idem, trimChars]

/-- Nothing is trimmed from a text that neither starts nor ends with a blank. -/
theorem trimChars_of_ends {cs front r : List Char} {c d : Char} (hFirst : cs = c :: r)
    (hStart : isBlank c = false) (hLast : cs = front ++ [d]) (hEnd : isBlank d = false) :
    trimChars cs = cs := by
  rw [trimChars, hFirst, trimStartChars_cons hStart, ← hFirst, hLast, trimEndChars_concat hEnd]

theorem mem_of_mem_trimChars {c : Char} {cs : List Char} (h : c ∈ trimChars cs) : c ∈ cs := by
  obtain ⟨before, after, -, -, hSplit⟩ := exists_blanks_trimChars cs
  rw [hSplit]
  simp [h]

/-- A text that is more than blanks is not trimmed to nothing. -/
theorem trimChars_ne_nil {cs : List Char} {c : Char} (hc : c ∈ cs) (hBlank : isBlank c = false) :
    trimChars cs ≠ [] := by
  intro hNil
  obtain ⟨before, after, hBefore, hAfter, hSplit⟩ := exists_blanks_trimChars cs
  rw [hNil, List.nil_append] at hSplit
  rw [hSplit] at hc
  have hEither := (List.mem_append.1 hc).elim (hBefore c) (hAfter c)
  rw [hBlank] at hEither
  contradiction

theorem trimStartChars_ne_nil {cs : List Char} (h : trimChars cs ≠ []) :
    trimStartChars cs ≠ [] := by
  intro hStart
  apply h
  rw [trimChars, hStart]
  rfl

/-- A text with an ending behind it is trimmed at its start alone. -/
theorem trimChars_append {cs : List Char} (h : trimChars cs ≠ []) (front : List Char) {c : Char}
    (hLast : isBlank c = false) :
    trimChars (cs ++ (front ++ [c])) = trimStartChars cs ++ (front ++ [c]) := by
  rw [trimChars, trimStartChars_append (trimStartChars_ne_nil h), ← List.append_assoc,
    trimEndChars_concat hLast]

/-! ## Ends of trimmed texts -/

theorem last_of_trimChars {cs front : List Char} {c : Char} (h : trimChars cs = front ++ [c]) :
    isBlank c = false := by
  have hHead := List.head?_dropWhile_not isBlank (trimStartChars cs).reverse
  have hEnd : ((trimStartChars cs).reverse.dropWhile isBlank) = c :: front.reverse := by
    have hReverse := congrArg List.reverse h
    rwa [trimChars, trimEndChars, List.reverse_reverse, List.reverse_append,
      List.reverse_singleton, List.singleton_append] at hReverse
  rw [hEnd] at hHead
  simpa using hHead

end ViewAdapters.Text
