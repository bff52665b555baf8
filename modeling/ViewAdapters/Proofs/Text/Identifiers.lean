import ViewAdapters.Adapter.View
import ViewAdapters.Proofs.Text.Words

/-!
# Identifiers

Names of members are identifiers, and types of the source program have dotted names. A name that
is derived from one of them has no character that ends a word.

* `isIdentifier_lastSegment`: the last segment of a dotted name is an identifier.
* `IsWord.decapitalize`, `IsWord.capitalize`: another letter case of a word is a word.
* `CommandView.isWord_identifierOf`, `CommandView.isWord_parameterName`: names that are derived
  for a command.
-/

namespace ViewAdapters

open Target (isWordStart isWordPart isWordPart_of_isWordStart)

theorem Descriptor.leaf_withoutNullable (d : Descriptor) : d.withoutNullable.leaf = d.leaf := by
  induction d with
  | nullable d ih => exact ih
  | _ => rfl

/-- A text of word characters. -/
def IsWord (s : String) : Prop := s.toList.all isWordPart = true

/-- Whether a text is an identifier of ASCII. -/
def isIdentifier (s : String) : Bool :=
  s.toList.head?.any isWordStart && s.toList.all isWordPart

/-- Whether a text is made of identifiers with dots between them. -/
def isDotted (s : String) : Bool :=
  (s.toList.splitOn '.').all fun segment => isIdentifier (String.ofList segment)

/-- Whether a type of the source program, inside its layers, has a dotted name. -/
def Descriptor.isDotted (d : Descriptor) : Bool :=
  match d.leaf with
  | .reference name => ViewAdapters.isDotted name
  | _ => true

section Words

variable {s t : String}

theorem isWord_of_isIdentifier (h : isIdentifier s = true) : IsWord s :=
  (Bool.and_eq_true _ _ ▸ h).2

theorem ne_empty_of_isIdentifier (h : isIdentifier s = true) : s ≠ "" := by
  rintro rfl
  contradiction

theorem IsWord.append (hs : IsWord s) (ht : IsWord t) : IsWord (s ++ t) := by
  rw [IsWord, String.toList_append, List.all_append, hs, ht]
  rfl

/-- Characters of words are letters, digits and the mark `_` of ASCII. -/
theorem toNat_lt_of_isWordPart {c : Char} (h : isWordPart c = true) : c.toNat < 128 := by
  have hRanges : (((decide (65 ≤ c.val ∧ c.val ≤ 90) ||
      decide (97 ≤ c.val) && decide (c.val ≤ 122)) ||
      decide (48 ≤ c.val) && decide (c.val ≤ 57)) || c == '_') = true := h
  simp only [Bool.or_eq_true, Bool.and_eq_true, decide_eq_true_eq, beq_iff_eq,
    UInt32.le_iff_toNat_le] at hRanges
  have hCode : c.toNat = c.val.toNat := rfl
  rcases hRanges with ((⟨-, hUpper⟩ | ⟨-, hLower⟩) | ⟨-, hDigit⟩) | rfl
  · simp at hUpper
    omega
  · simp at hLower
    omega
  · simp at hDigit
    omega
  · decide

/-- The small and the capital form of a character of words are some too. -/
theorem isWordPart_forms {c : Char} (h : isWordPart c = true) :
    isWordPart c.toLower = true ∧ isWordPart c.toUpper = true := by
  have hAscii : ∀ n < 128, isWordPart (Char.ofNat n) = true →
      isWordPart (Char.ofNat n).toLower = true ∧ isWordPart (Char.ofNat n).toUpper = true := by
    decide
  exact @Text.forall_ascii (fun c => isWordPart c = true →
    isWordPart c.toLower = true ∧ isWordPart c.toUpper = true) hAscii c
    (toNat_lt_of_isWordPart h) h

theorem IsWord.decapitalize (h : IsWord s) : IsWord (Text.decapitalize s) := by
  cases hChars : s.toList with
  | nil => rwa [Text.decapitalize, hChars]
  | cons c r =>
    rw [IsWord, hChars, List.all_cons, Bool.and_eq_true] at h
    have hLower := Text.lowerChars_ascii (toNat_lt_of_isWordPart h.1)
    rw [IsWord, Text.toList_decapitalize_cons hChars, hLower]
    simp [isWordPart_forms h.1, h.2]

theorem IsWord.capitalize (h : IsWord s) : IsWord (Text.capitalize s) := by
  cases hChars : s.toList with
  | nil => rwa [Text.capitalize, hChars]
  | cons c r =>
    rw [IsWord, hChars, List.all_cons, Bool.and_eq_true] at h
    have hUpper := Text.upperChars_ascii (toNat_lt_of_isWordPart h.1)
    rw [IsWord, Text.toList_capitalize_cons hChars, hUpper]
    simp [isWordPart_forms h.1, h.2]

theorem decapitalize_ne_empty (h : isIdentifier s = true) : Text.decapitalize s ≠ "" := by
  cases hChars : s.toList with
  | nil => simp [isIdentifier, hChars] at h
  | cons c r =>
    have hWord := isWord_of_isIdentifier h
    rw [IsWord, hChars, List.all_cons, Bool.and_eq_true] at hWord
    intro hEmpty
    have hNil := congrArg String.toList hEmpty
    rw [Text.toList_decapitalize_cons hChars,
      Text.lowerChars_ascii (toNat_lt_of_isWordPart hWord.1)] at hNil
    contradiction

theorem not_mem_beforeDot (cs : List Char) : '.' ∉ Text.beforeDot cs := by
  induction cs with
  | nil => exact List.not_mem_nil
  | cons c r ih =>
    unfold Text.beforeDot
    split
    · exact List.not_mem_nil
    · rename_i hc
      rw [List.mem_cons, not_or]
      exact ⟨Ne.symm hc, ih⟩

theorem not_mem_lastSegmentChars (cs : List Char) : '.' ∉ Text.lastSegmentChars cs := by
  rw [Text.lastSegmentChars, List.mem_reverse]
  exact not_mem_beforeDot _

theorem getLast?_splitOn_dot (cs : List Char) :
    (cs.splitOn '.').getLast? = some (Text.lastSegmentChars cs) := by
  have hDot := not_mem_lastSegmentChars cs
  rcases Text.exists_front_lastSegment cs with hAll | ⟨front, hSplit⟩
  · rw [hAll] at hDot ⊢
    rw [List.splitOn_eq_singleton hDot]
    rfl
  · have hSegments : cs.splitOn '.' =
        front.splitOn '.' ++ (Text.lastSegmentChars cs).splitOn '.' :=
      (congrArg (List.splitOn '.') hSplit).trans (List.splitOnP_append_cons _ _ (by decide))
    rw [hSegments, List.splitOn_eq_singleton hDot, List.getLast?_concat]

theorem isIdentifier_lastSegment (h : isDotted s = true) :
    isIdentifier (Text.lastSegment s) = true :=
  List.all_eq_true.1 h _ (List.mem_of_getLast? (getLast?_splitOn_dot _))

end Words

/-! ## Names that are derived for commands -/

namespace CommandView

theorem isWord_identifierOf {name : String} (h : IsWord name) : IsWord (identifierOf name) := by
  refine IsWord.decapitalize ?_
  rw [IsWord, String.toList_ofList]
  cases hStem : Text.stem? nameEnding name.toList with
  | none => exact h
  | some stem =>
    rw [IsWord, (Text.stem?_eq_some_iff.1 hStem).1, List.all_append, Bool.and_eq_true] at h
    exact h.1

/-- The name of a parameter is a word, and not the empty one. -/
theorem isWord_parameterName {d : Option Descriptor} (h : ∀ e ∈ d, e.isDotted = true) :
    IsWord (parameterName d) ∧ parameterName d ≠ "" := by
  unfold parameterName
  split
  · rename_i name hReference
    obtain ⟨e, he, hSame⟩ := Option.map_eq_some_iff.1 hReference
    have hLeaf : e.leaf = .reference name := by
      rw [← e.leaf_withoutNullable, hSame]
      rfl
    have hDotted : isDotted name = true := by simpa [Descriptor.isDotted, hLeaf] using h e he
    have hSimple := isIdentifier_lastSegment hDotted
    exact ⟨(isWord_of_isIdentifier hSimple).decapitalize, decapitalize_ne_empty hSimple⟩
  · exact ⟨by unfold IsWord; decide, by decide⟩

end CommandView
end ViewAdapters
