import ViewAdapters.Metadata.TypeText
import ViewAdapters.Proofs.Text.LetterCase
import ViewAdapters.Proofs.Text.Trimming

/-!
# Shapes of type texts

Which text has which shape, and what a text of each shape denotes: scalars by their names and
marks in any case, names of types, and the three forms around an inner text. A reading depends
on a text without the blanks at its ends.

* `spelledKind?_eq_none_iff`: the texts that give no kind of scalar.
* `shape_marked`, `shape_generic`: the shapes of two forms.
* `shape_of_hasNoForm`: a text of no other form is a name.
* `parseChars_congr`: texts that are trimmed to the same one denote the same.
* `parseChars_optional`, `parseChars_array`, `parseChars_generic`: what a text denotes by what
  its inner text denotes.
-/

namespace ViewAdapters.TypeText

open Text (InAnyCase IsClear IsBlank)

/-! ## Texts that can stand in brackets -/

/-- A text without blanks at its ends and without line breaks, which is not empty. -/
structure IsTight (cs : List Char) : Prop where
  first : ∃ c r, cs = c :: r ∧ Text.isBlank c = false
  last : ∃ r c, cs = r ++ [c] ∧ Text.isBlank c = false
  noBreak : '\n' ∉ cs

theorem IsTight.trim {cs : List Char} (h : IsTight cs) : Text.trimChars cs = cs := by
  obtain ⟨c, r, hFirst, hStart⟩ := h.first
  obtain ⟨front, d, hLast, hEnd⟩ := h.last
  exact Text.trimChars_of_ends hFirst hStart hLast hEnd

theorem IsTight.trim_ne_nil {cs : List Char} (h : IsTight cs) : Text.trimChars cs ≠ [] := by
  obtain ⟨c, r, hFirst, -⟩ := h.first
  rw [h.trim, hFirst]
  exact List.cons_ne_nil c r

/-- A text without any blank is tight. -/
theorem isTight_of_forall {cs : List Char} (hSome : cs ≠ [])
    (h : ∀ c ∈ cs, Text.isBlank c = false) : IsTight cs := by
  refine ⟨?_, ?_, fun hMem => ?_⟩
  · obtain ⟨c, r, rfl⟩ := List.exists_cons_of_ne_nil hSome
    exact ⟨c, r, rfl, h c (by simp)⟩
  · obtain ⟨front, c, hEq⟩ := (List.eq_nil_or_concat cs).resolve_left hSome
    rw [List.concat_eq_append] at hEq
    exact ⟨front, c, hEq, h c (by simp [hEq])⟩
  · have hBlank := h '\n' hMem
    contradiction

theorem IsTight.ofList_ne {cs : List Char} (h : IsTight cs) : String.ofList cs ≠ "" := by
  obtain ⟨c, r, rfl, -⟩ := h.first
  intro hEmpty
  have hNil := congrArg String.toList hEmpty
  simp at hNil

/-- Trimming leaves no blank at the end. -/
theorem last_of_trim {cs front : List Char} {c : Char} (hTrim : Text.trimChars cs = cs)
    (h : cs = front ++ [c]) : Text.isBlank c = false :=
  Text.last_of_trimChars (hTrim.trans h)

/-- A text between brackets that is more than blanks is read without the blanks at its ends. -/
theorem argument?_eq {inside : List Char} (hSome : Text.trimChars inside ≠ [])
    (hBreak : '\n' ∉ inside) : argument? inside = some (Text.trimChars inside) := by
  have hNone : '\n' ∉ Text.trimChars inside := fun h => hBreak (Text.mem_of_mem_trimChars h)
  unfold argument?
  rw [if_neg (by simpa using hSome), if_neg (by simpa using hNone)]

/-! ## Names of scalars -/

/-- The kind of the scalar that a text names or gives as such. -/
def spelledKind? (cs : List Char) : Option String :=
  (markedKind? cs).or ((qualifiedKind? cs).or (scalarKind? cs))

/-- A text that names a scalar in any case, with its namespace or without. -/
inductive NamesScalar : List Char → String → Prop
  | plain {cs : List Char} {name kind : String} (hName : (name, kind) ∈ scalarNames)
      (hCase : InAnyCase name.toList cs) : NamesScalar cs kind
  | qualified {front cs : List Char} {name kind : String}
      (hFront : InAnyCase scalarNamespace front) (hName : (name, kind) ∈ scalarNames)
      (hCase : InAnyCase name.toList cs) : NamesScalar (front ++ cs) kind

/-- A text that starts with the mark of scalars in any case. -/
def IsMarked (cs : List Char) : Prop :=
  ∃ front back, cs = front ++ back ∧ InAnyCase scalarMark front

theorem isClear_scalarNames : ∀ x ∈ scalarNames, IsClear x.1.toList := by decide

theorem lookup_scalarNames : ∀ x ∈ scalarNames, scalarNames.lookup x.1 = some x.2 := by decide

/-- A scalar name is known in any mixture of letter cases. -/
theorem scalarKind?_eq_some_iff {cs : List Char} {kind : String} :
    scalarKind? cs = some kind ↔
      ∃ name, (name, kind) ∈ scalarNames ∧ InAnyCase name.toList cs := by
  unfold scalarKind?
  constructor
  · intro h
    have hMem := SortedMap.mem_of_lookup h
    have hClear := isClear_scalarNames _ hMem
    rw [String.toList_ofList] at hClear
    exact ⟨_, hMem, by rw [String.toList_ofList]; exact Text.inAnyCase_of_lowerAfter hClear rfl⟩
  · rintro ⟨name, hMem, hCase⟩
    rw [Text.lowerAfter_of_inAnyCase hCase (isClear_scalarNames _ hMem), String.ofList_toList]
    exact lookup_scalarNames _ hMem

/-- A text starts with a mark in any case if its first letters are those of the mark. A mark that
ends in `i` would also be found in front of a combining dot. -/
theorem startsWithAnyCase_iff {mark cs : List Char} (hMark : IsClear mark)
    (hLast : mark.getLast? ≠ some 'i') :
    startsWithAnyCase mark cs = true ↔
      ∃ front back, cs = front ++ back ∧ InAnyCase mark front := by
  unfold startsWithAnyCase
  rw [List.isPrefixOf_iff_prefix]
  constructor
  · rintro ⟨rest, hRest⟩
    obtain ⟨front, back, hSplit, hFront, -⟩ :=
      Text.exists_front_of_lowerAfter hMark (.inr hLast) hRest.symm
    exact ⟨front, back, hSplit, hFront⟩
  · rintro ⟨front, back, rfl, hFront⟩
    obtain ⟨rest, hRest⟩ :=
      Text.exists_lowerAfter_append [] (fun c hc => hFront.ascii hMark hc) back
    exact ⟨rest, by rw [hRest, hFront]⟩

/-- Behind the scalar namespace a scalar name is known as it is alone. -/
theorem qualifiedKind?_eq_some_iff {cs : List Char} {kind : String} :
    qualifiedKind? cs = some kind ↔
      ∃ front back name, cs = front ++ back ∧ InAnyCase scalarNamespace front ∧
        (name, kind) ∈ scalarNames ∧ InAnyCase name.toList back := by
  have hStarts := @startsWithAnyCase_iff scalarNamespace cs (by decide) (by decide)
  have hDrop : ∀ {front back : List Char}, InAnyCase scalarNamespace front →
      (front ++ back).drop scalarNamespace.length = back := by
    intro front back hFront
    rw [← hFront, List.length_map, List.drop_left]
  unfold qualifiedKind?
  constructor
  · intro h
    split at h
    · rename_i hStart
      obtain ⟨front, back, rfl, hFront⟩ := hStarts.1 hStart
      rw [hDrop hFront, scalarKind?_eq_some_iff] at h
      obtain ⟨name, hName, hCase⟩ := h
      exact ⟨front, back, name, rfl, hFront, hName, hCase⟩
    · contradiction
  · rintro ⟨front, back, name, rfl, hFront, hName, hCase⟩
    rw [if_pos (hStarts.2 ⟨front, back, rfl, hFront⟩), hDrop hFront]
    exact scalarKind?_eq_some_iff.2 ⟨name, hName, hCase⟩

theorem markedKind?_eq_none_iff {cs : List Char} : markedKind? cs = none ↔ ¬IsMarked cs := by
  unfold markedKind?
  rw [ite_eq_right_iff, IsMarked, ← startsWithAnyCase_iff (by decide) (by decide)]
  exact ⟨fun h hStart => Option.some_ne_none _ (h hStart), fun h hStart => absurd hStart h⟩

namespace NamesScalar

variable {cs : List Char} {kind : String}

/-- A character that is its own small form and stands in no name stands in no spelling. -/
theorem not_mem (h : NamesScalar cs kind) {c : Char} (hSelf : c.toLower = c)
    (hNames : ∀ x ∈ scalarNames, c ∉ x.1.toList) (hNamespace : c ∉ scalarNamespace) :
    c ∉ cs := by
  cases h with
  | plain hName hCase => exact fun hc => hNames _ hName (hCase.mem_of_toLower hSelf hc)
  | qualified hFront hName hCase =>
    rw [List.mem_append, not_or]
    exact ⟨fun hc => hNamespace (hFront.mem_of_toLower hSelf hc),
      fun hc => hNames _ hName (hCase.mem_of_toLower hSelf hc)⟩

theorem ne_nil (h : NamesScalar cs kind) : cs ≠ [] := by
  have hNames : ∀ x ∈ scalarNames, x.1.toList ≠ [] := by decide
  rintro rfl
  generalize hNil : ([] : List Char) = cs at h
  cases h with
  | plain hName hCase =>
    rw [← hNil] at hCase
    exact hNames _ hName hCase.symm
  | qualified hFront hName hCase =>
    rw [(List.append_eq_nil_iff.1 hNil.symm).2] at hCase
    exact hNames _ hName hCase.symm

/-- A name of a scalar holds no blank. -/
theorem not_isBlank (h : NamesScalar cs kind) {c : Char} (hc : c ∈ cs) :
    Text.isBlank c = false := by
  have hNames : ∀ x ∈ scalarNames, x.1.toList.any Text.isBlank = false := by decide
  cases h with
  | plain hName hCase => exact hCase.not_isBlank (hNames _ hName) hc
  | qualified hFront hName hCase =>
    rcases List.mem_append.1 hc with hc | hc
    · exact hFront.not_isBlank (by decide) hc
    · exact hCase.not_isBlank (hNames _ hName) hc

theorem isTight (h : NamesScalar cs kind) : IsTight cs :=
  isTight_of_forall h.ne_nil fun _ => h.not_isBlank

/-- No name of a scalar starts with the mark of internal names. -/
theorem not_isMarked (h : NamesScalar cs kind) : ¬IsMarked cs := by
  rintro ⟨front, back, rfl, hFront⟩
  have hColon : ':' ∈ front.map Char.toLower := by
    rw [hFront]
    decide
  obtain ⟨c, hc, hLower⟩ := List.mem_map.1 hColon
  rw [Text.eq_of_toLower hLower rfl] at hc
  have hNone := h.not_mem (c := ':') rfl (by decide) (by decide)
  exact hNone (List.mem_append_left back hc)

end NamesScalar

/-- The names of scalars are those that one of the two tables knows. -/
theorem namesScalar_iff {cs : List Char} {kind : String} :
    NamesScalar cs kind ↔ (qualifiedKind? cs).or (scalarKind? cs) = some kind := by
  constructor
  · intro h
    cases h with
    | plain hName hCase =>
      have hFree : ∀ x ∈ scalarNames, ¬scalarNamespace <+: x.1.toList := by decide
      have hNone : qualifiedKind? cs = none := by
        cases hQualified : qualifiedKind? cs with
        | none => rfl
        | some other =>
          obtain ⟨front, back, -, rfl, hFront, -, -⟩ := qualifiedKind?_eq_some_iff.1 hQualified
          refine absurd ⟨back.map Char.toLower, ?_⟩ (hFree _ hName)
          rw [← hCase, List.map_append, hFront]
      rw [hNone, Option.none_or]
      exact scalarKind?_eq_some_iff.2 ⟨_, hName, hCase⟩
    | qualified hFront hName hCase =>
      rw [qualifiedKind?_eq_some_iff.2 ⟨_, _, _, rfl, hFront, hName, hCase⟩, Option.some_or]
  · intro h
    rcases Option.or_eq_some_iff.1 h with hQualified | ⟨-, hPlain⟩
    · obtain ⟨front, back, name, rfl, hFront, hName, hCase⟩ :=
        qualifiedKind?_eq_some_iff.1 hQualified
      exact .qualified hFront hName hCase
    · obtain ⟨name, hName, hCase⟩ := scalarKind?_eq_some_iff.1 hPlain
      exact .plain hName hCase

/-- The texts that give no kind of scalar. -/
theorem spelledKind?_eq_none_iff {cs : List Char} :
    spelledKind? cs = none ↔ ¬IsMarked cs ∧ ∀ kind, ¬NamesScalar cs kind := by
  unfold spelledKind?
  rw [Option.or_eq_none_iff, markedKind?_eq_none_iff, Option.eq_none_iff_forall_ne_some]
  simp only [namesScalar_iff, ne_eq]

/-- A name of a scalar spells its kind, since it is not marked. -/
theorem NamesScalar.spelledKind {cs : List Char} {kind : String} (h : NamesScalar cs kind) :
    spelledKind? cs = some kind := by
  unfold spelledKind?
  rw [markedKind?_eq_none_iff.2 h.not_isMarked, Option.none_or]
  exact namesScalar_iff.1 h

/-! ## Kinds and names of types -/

/-- A kind of scalar that is read again behind its mark. -/
structure IsKind (kind : String) : Prop where
  trimmed : Text.trimChars kind.toList = kind.toList
  noBreak : '\n' ∉ kind.toList
  noQuestion : kind.toList.getLast? ≠ some '?'

/-- A name of a type of the source program that is no scalar. -/
structure IsTypeName (name : String) : Prop where
  nonempty : name.toList ≠ []
  chars : ∀ c ∈ name.toList, Text.isBlank c = false ∧ c ∉ ['<', '?', '[']
  notScalar : spelledKind? name.toList = none

/-- The numbers of all blanks. -/
def blankNumbers : List Nat :=
  List.range' 9 5 ++ List.range' 28 5 ++ [0x85, 0xA0, 0x1680] ++ List.range' 0x2000 11 ++
    [0x2028, 0x2029, 0x202F, 0x205F, 0x3000]

/-- Every blank is in the list, which lets letters be told from blanks by computation. -/
theorem mem_blankNumbers {c : Char} (h : Text.isBlank c) : c.toNat ∈ blankNumbers := by
  simp only [Text.isBlank, Bool.or_eq_true, Bool.and_eq_true, decide_eq_true_eq,
    beq_iff_eq] at h
  simp only [blankNumbers, List.mem_append, List.mem_range'_1, List.mem_cons,
    List.not_mem_nil]
  omega

/-- A character of a name is no blank. -/
theorem not_isBlank_of_isNameChar {c : Char} (h : isNameChar c) :
    Text.isBlank c = false := by
  have hAll : (blankNumbers.all fun n => !isNameChar (Char.ofNat n)) = true := by
    decide +kernel
  cases hBlank : Text.isBlank c with
  | false => rfl
  | true =>
    have hNot := List.all_eq_true.1 hAll _ (mem_blankNumbers hBlank)
    rw [Char.ofNat_toNat, h] at hNot
    exact absurd hNot Bool.false_ne_true

/-- Identifiers with dots between them name types. -/
theorem isTypeName_of_isNameChar {name : String} (hNonempty : name.toList ≠ [])
    (hChars : ∀ c ∈ name.toList, isNameChar c)
    (hScalar : spelledKind? name.toList = none) : IsTypeName name := by
  refine ⟨hNonempty, fun c hc => ⟨not_isBlank_of_isNameChar (hChars c hc), ?_⟩, hScalar⟩
  intro hMark
  have hMarks : (['<', '?', '['].all fun c => !isNameChar c) = true := by decide +kernel
  have hNot := List.all_eq_true.1 hMarks c hMark
  rw [hChars c hc] at hNot
  exact absurd hNot Bool.false_ne_true

theorem IsTypeName.isTight {name : String} (h : IsTypeName name) : IsTight name.toList :=
  isTight_of_forall h.nonempty fun c hc => (h.chars c hc).1

/-- Letter case does not lead out of the characters of names. -/
theorem isNameChar_of_toLower {c : Char} (h : isNameChar c.toLower = true) :
    isNameChar c = true := by
  rcases Text.toLower_cases c with hSelf | ⟨hCapital, -⟩
  · rwa [hSelf] at h
  · have hCode := Text.toNat_of_isUpper hCapital
    have hLetter : c.isAlphanum = true := by
      show (c.isUpper || c.isLower || c.isDigit) = true
      rw [hCapital, Bool.true_or, Bool.true_or]
    have hWord := Text.isWordChar_of_isAlphanum hLetter (by omega)
    simp [isNameChar, hWord]

theorem isNameChar_of_isNameStart {c : Char} (h : isNameStart c = true) : isNameChar c = true := by
  rcases Bool.or_eq_true_iff.1 h with hLetter | hMark
  · have hCode : c.toNat < 128 := by
      rcases Bool.or_eq_true_iff.1 hLetter with hCapital | hSmall
      · have := Text.toNat_of_isUpper hCapital
        omega
      · have hLast : c.val ≤ 122 := of_decide_eq_true (Bool.and_eq_true_iff.1 hSmall).2
        exact Nat.lt_of_le_of_lt (UInt32.le_iff_toNat_le.1 hLast) (by decide)
    have hWord := Text.isWordChar_of_isAlphanum (by simp [Char.isAlphanum, hLetter]) hCode
    simp [isNameChar, hWord]
  · rw [beq_iff_eq.1 hMark]
    decide

/-- The mark of scalars in any case is a word with a colon. -/
theorem exists_word_of_mark {front : List Char} (h : InAnyCase scalarMark front) :
    ∃ word, front = word ++ [':'] ∧ ∀ c ∈ word, isNameChar c = true := by
  have hSplit : scalarMark = "primitive".toList ++ [':'] := rfl
  rw [InAnyCase, hSplit, List.map_eq_append_iff] at h
  obtain ⟨word, colon, rfl, hWord, hColon⟩ := h
  obtain ⟨c, rfl, hc⟩ := List.map_eq_singleton_iff.1 hColon
  obtain rfl := Text.eq_of_toLower hc rfl
  have hLetters : ("primitive".toList.all isNameChar) = true := by decide
  exact ⟨word, rfl, fun c hMem =>
    isNameChar_of_toLower (List.all_eq_true.1 hLetters _ (hWord ▸ List.mem_map_of_mem hMem))⟩

/-- A word has no colon of its own, so the first colon is the one behind it. -/
theorem dropWhile_of_word {word back : List Char} (h : ∀ c ∈ word, isNameChar c = true) :
    (word ++ [':'] ++ back).dropWhile (· ≠ ':') = ':' :: back := by
  have hPass : ∀ c ∈ word, decide (c ≠ ':') = true := by
    intro c hc
    refine decide_eq_true ?_
    rintro rfl
    exact absurd (h ':' hc) (by decide)
  rw [List.append_assoc, List.dropWhile_append_of_pos hPass]
  rfl

/-- What stands behind the colon of a mark is its kind, whatever the case of the mark. -/
theorem spelledKind?_marked {front : List Char} {kind : String}
    (hMark : InAnyCase scalarMark front) (h : IsKind kind) :
    spelledKind? (front ++ kind.toList) = some kind := by
  have hStarts : startsWithAnyCase scalarMark (front ++ kind.toList) = true :=
    (startsWithAnyCase_iff (by decide) (by decide)).2 ⟨front, _, rfl, hMark⟩
  obtain ⟨word, rfl, hWord⟩ := exists_word_of_mark hMark
  have hKind : ((word ++ [':'] ++ kind.toList).dropWhile (· ≠ ':')).drop 1 = kind.toList := by
    rw [dropWhile_of_word hWord]
    rfl
  unfold spelledKind? markedKind?
  rw [if_pos hStarts, hKind, h.trimmed, String.ofList_toList, Option.some_or]

/-- A kind behind the scalar mark has no blanks around it. -/
theorem isTight_marked {front : List Char} {kind : String} (hMark : InAnyCase scalarMark front)
    (h : IsKind kind) : IsTight (front ++ kind.toList) := by
  have hFront : ∀ c ∈ front, Text.isBlank c = false :=
    fun c hc => hMark.not_isBlank (by decide) hc
  have hWord : IsTight front := isTight_of_forall (by rintro rfl; contradiction) hFront
  refine ⟨?_, ?_, ?_⟩
  · obtain ⟨c, r, hFirst, hBlank⟩ := hWord.first
    exact ⟨c, r ++ kind.toList, by rw [hFirst, List.cons_append], hBlank⟩
  · rcases List.eq_nil_or_concat kind.toList with hNil | ⟨r, c, hLast⟩
    · rw [hNil, List.append_nil]
      exact hWord.last
    · rw [List.concat_eq_append] at hLast
      refine ⟨front ++ r, c, by rw [hLast, List.append_assoc], last_of_trim h.trimmed hLast⟩
  · rw [List.mem_append, not_or]
    exact ⟨hWord.noBreak, h.noBreak⟩

/-! ## Generic types -/

/-- A name that can stand in front of an angle bracket. -/
structure HeadsGeneric (name : List Char) : Prop where
  first : name.head?.any isNameStart = true
  chars : ∀ c ∈ name, isNameChar c = true

section Generic

variable {name gap inside argument cs : List Char}

/-- A generic name has a first letter. -/
theorem HeadsGeneric.exists_cons (h : HeadsGeneric name) :
    ∃ c r, name = c :: r ∧ isNameStart c = true := by
  have hFirst := h.first
  cases name with
  | nil => contradiction
  | cons c r => exact ⟨c, r, rfl, hFirst⟩

/-- The name of a generic ends at the gap in front of its bracket. -/
theorem dropWhile_gap (hGap : IsBlank gap) (r : List Char) :
    (gap ++ '<' :: r).dropWhile isNameChar = gap ++ '<' :: r ∧
      (gap ++ '<' :: r).takeWhile isNameChar = [] := by
  have hBracket : isNameChar '<' = false := by decide
  cases gap with
  | nil =>
    exact ⟨List.dropWhile_cons_of_neg (by simp [hBracket]),
      List.takeWhile_cons_of_neg (by simp [hBracket])⟩
  | cons c gap =>
    have hc : ¬isNameChar c = true := by
      intro hName
      have hBlank := hGap c (by simp)
      rw [not_isBlank_of_isNameChar hName] at hBlank
      contradiction
    exact ⟨List.dropWhile_cons_of_neg hc, List.takeWhile_cons_of_neg hc⟩

/-- The texts that are split at an angle bracket. -/
theorem splitGeneric?_eq_some_iff : splitGeneric? cs = some (name, argument) ↔
    ∃ gap inside, HeadsGeneric name ∧ IsBlank gap ∧ argument? inside = some argument ∧
      cs = name ++ (gap ++ '<' :: (inside ++ ['>'])) := by
  unfold splitGeneric?
  constructor
  · intro h
    split at h <;> try contradiction
    rename_i hFirst
    split at h <;> try contradiction
    rename_i rest hRest
    simp only [Option.map_eq_some_iff, Option.bind_eq_some_iff, Prod.mk.injEq] at h
    obtain ⟨_, ⟨inside, hInside, hArgument⟩, rfl, rfl⟩ := h
    refine ⟨(cs.dropWhile isNameChar).takeWhile Text.isBlank, inside, ⟨?_, ?_⟩, ?_, hArgument, ?_⟩
    · obtain ⟨c, hHead, hStart⟩ := (Option.any_eq_true _ _).1 hFirst
      obtain ⟨r, rfl⟩ := List.head?_eq_some_iff.1 hHead
      have hName : isNameChar c = true := isNameChar_of_isNameStart hStart
      rw [List.takeWhile_cons_of_pos hName]
      exact hStart
    · exact fun c hc => List.mem_takeWhile_imp hc
    · exact fun c hc => List.mem_takeWhile_imp hc
    · calc cs = cs.takeWhile isNameChar ++ cs.dropWhile isNameChar :=
          List.takeWhile_append_dropWhile.symm
        _ = _ := by
          rw [← Text.dropEnding?_eq_some_iff.1 hInside, ← hRest,
            List.takeWhile_append_dropWhile (p := Text.isBlank)]
  · rintro ⟨gap, inside, hName, hGap, hArgument, rfl⟩
    obtain ⟨hDrop, hTake⟩ := dropWhile_gap hGap (inside ++ ['>'])
    have hRest : ((name ++ (gap ++ '<' :: (inside ++ ['>']))).dropWhile isNameChar).dropWhile
        Text.isBlank = '<' :: (inside ++ ['>']) := by
      rw [List.dropWhile_append_of_pos hName.chars, hDrop, List.dropWhile_append_of_pos hGap]
      rfl
    have hFirst : (name ++ (gap ++ '<' :: (inside ++ ['>']))).head?.any isNameStart = true := by
      obtain ⟨c, r, rfl, hStart⟩ := hName.exists_cons
      exact hStart
    rw [if_pos hFirst, hRest]
    show ((Text.dropEnding? ['>'] (inside ++ ['>'])).bind argument?).map _ = _
    rw [Text.dropEnding?_eq_some_iff.2 rfl, Option.bind_some, hArgument,
      List.takeWhile_append_of_pos hName.chars, hTake, List.append_nil, Option.map_some]

/-- What has an angle bracket behind its name is no scalar. -/
theorem spelledKind?_generic (hName : HeadsGeneric name) (hGap : IsBlank gap) (r : List Char) :
    spelledKind? (name ++ (gap ++ '<' :: r)) = none := by
  refine spelledKind?_eq_none_iff.2 ⟨?_, fun kind hScalar => ?_⟩
  · rintro ⟨front, back, hSplit, hMark⟩
    obtain ⟨word, rfl, hWord⟩ := exists_word_of_mark hMark
    -- the first character that is in no name would be both a colon and a blank or bracket
    have hRest := congrArg (List.dropWhile isNameChar) hSplit
    rw [List.dropWhile_append_of_pos hName.chars, (dropWhile_gap hGap r).1, List.append_assoc,
      List.dropWhile_append_of_pos hWord] at hRest
    have hColon : isNameChar ':' = false := by decide
    rw [List.singleton_append, List.dropWhile_cons_of_neg (by simp [hColon])] at hRest
    cases gap with
    | nil =>
      injection hRest with hHead
      contradiction
    | cons c gap =>
      injection hRest with hHead
      have hBlank := hGap c (by simp)
      rw [hHead] at hBlank
      contradiction
  · exact hScalar.not_mem (c := '<') rfl (by decide) (by decide) (by simp)

/-- A generic has no blanks around it, whatever stands in its brackets. -/
theorem trimChars_generic (hName : HeadsGeneric name) :
    Text.trimChars (name ++ (gap ++ '<' :: (inside ++ ['>']))) =
      name ++ (gap ++ '<' :: (inside ++ ['>'])) := by
  obtain ⟨c, rest, rfl, -⟩ := hName.exists_cons
  have hStart := not_isBlank_of_isNameChar (hName.chars c (by simp))
  have hLast : c :: rest ++ (gap ++ '<' :: (inside ++ ['>'])) =
      (c :: rest ++ (gap ++ '<' :: inside)) ++ ['>'] := by simp
  exact Text.trimChars_of_ends rfl hStart hLast rfl

end Generic

/-! ## Shapes -/

theorem dropEnding?_eq_none {ending cs : List Char} (h : ∀ front, cs ≠ front ++ ending) :
    Text.dropEnding? ending cs = none := by
  cases hDrop : Text.dropEnding? ending cs with
  | none => rfl
  | some front => exact absurd (Text.dropEnding?_eq_some_iff.1 hDrop) (h front)

/-- A text does not end in other characters than its last one. -/
theorem dropEnding?_of_getLast? {ending cs : List Char} (hEnding : ending ≠ [])
    (h : cs.getLast? ≠ ending.getLast?) : Text.dropEnding? ending cs = none := by
  refine dropEnding?_eq_none fun front hEq => h ?_
  rw [hEq, List.getLast?_append, List.getLast?_eq_some_getLast hEnding, Option.some_or]

/-- A question mark at the end is looked at before all else. -/
theorem shape_optional (cs : List Char) : shape (cs ++ ['?']) = .optional cs := by
  unfold shape
  rw [Text.dropEnding?_eq_some_iff.2 rfl, if_neg (by simp)]

/-- A scalar name is looked for before brackets. -/
theorem shape_spelled {cs : List Char} {kind : String} (h : spelledKind? cs = some kind)
    (hSome : cs ≠ []) (hLast : cs.getLast? ≠ some '?') :
    shape cs = .leaf (.primitive kind) := by
  unfold spelledKind? at h
  unfold shape
  rw [dropEnding?_of_getLast? (by decide) hLast, h, if_neg (by simpa using hSome)]

/-- An array is a text in front of empty brackets, unless the whole is a scalar name. -/
theorem shape_array {cs : List Char} (h : spelledKind? (cs ++ ['[', ']']) = none) :
    shape (cs ++ ['[', ']']) = .array cs := by
  have hNotOptional : Text.dropEnding? ['?'] (cs ++ ['[', ']']) = none :=
    dropEnding?_of_getLast? (by decide) (by simp)
  unfold spelledKind? at h
  unfold shape
  rw [hNotOptional, h, Text.dropEnding?_eq_some_iff.2 rfl, if_neg (by simp)]

/-- A name of a scalar in any case is that scalar. -/
theorem shape_scalar {cs : List Char} {kind : String} (h : NamesScalar cs kind) :
    shape cs = .leaf (.primitive kind) := by
  refine shape_spelled h.spelledKind h.ne_nil fun hLast => ?_
  exact h.not_mem (c := '?') rfl (by decide) (by decide) (List.mem_of_getLast? hLast)

/-- A kind behind the mark of scalars is the scalar of that kind. -/
theorem shape_marked {front : List Char} {kind : String} (hMark : InAnyCase scalarMark front)
    (h : IsKind kind) : shape (front ++ kind.toList) = .leaf (.primitive kind) := by
  have hSpelled := spelledKind?_marked hMark h
  have hTight := isTight_marked hMark h
  refine shape_spelled hSpelled (fun hNil => ?_) fun hLast => ?_
  · obtain ⟨c, r, hFirst, -⟩ := hTight.first
    rw [hFirst] at hNil
    contradiction
  · obtain ⟨word, rfl, -⟩ := exists_word_of_mark hMark
    rw [List.getLast?_append] at hLast
    cases hKind : kind.toList.getLast? with
    | none =>
      rw [hKind, Option.none_or, List.getLast?_concat] at hLast
      contradiction
    | some c =>
      rw [hKind, Option.some_or] at hLast
      exact h.noQuestion (hKind.trans hLast)

/-- A text that has no form but that of a name: it has neither a question mark nor square brackets
at its end, gives no scalar, and is no generic type with an argument. -/
structure HasNoForm (cs : List Char) : Prop where
  nonempty : cs ≠ []
  noQuestion : ∀ front, cs ≠ front ++ ['?']
  notArray : ∀ front, cs ≠ front ++ ['[', ']']
  notMarked : ¬IsMarked cs
  notScalar : ∀ kind, ¬NamesScalar cs kind
  notGeneric : ∀ name gap inside, HeadsGeneric name → IsBlank gap → argument? inside ≠ none →
    cs ≠ name ++ (gap ++ '<' :: (inside ++ ['>']))

/-- A text without any form is not split at a bracket. -/
theorem HasNoForm.splitGeneric {cs : List Char} (h : HasNoForm cs) : splitGeneric? cs = none := by
  refine Option.eq_none_iff_forall_ne_some.2 fun ⟨name, argument⟩ hSplit => ?_
  obtain ⟨gap, inside, hName, hGap, hArgument, hText⟩ := splitGeneric?_eq_some_iff.1 hSplit
  exact h.notGeneric name gap inside hName hGap (by simp [hArgument]) hText

/-- A text without any form is the name of a reference as it stands. -/
theorem shape_of_hasNoForm {cs : List Char} (h : HasNoForm cs) :
    shape cs = .leaf (.reference (String.ofList cs)) := by
  have hKind := spelledKind?_eq_none_iff.2 ⟨h.notMarked, h.notScalar⟩
  unfold spelledKind? at hKind
  unfold shape
  rw [dropEnding?_eq_none h.noQuestion, hKind, dropEnding?_eq_none h.notArray, h.splitGeneric,
    if_neg (by simpa using h.nonempty)]

/-- The name of a type has none of the forms. -/
theorem IsTypeName.hasNoForm {name : String} (h : IsTypeName name) : HasNoForm name.toList := by
  have hAbsent : ∀ {c : Char}, c ∈ ['<', '?', '['] → c ∉ name.toList :=
    fun hc hMem => (h.chars _ hMem).2 hc
  obtain ⟨hMark, hScalar⟩ := spelledKind?_eq_none_iff.1 h.notScalar
  refine ⟨h.nonempty, fun front hEq => ?_, fun front hEq => ?_, hMark, hScalar,
    fun head gap inside _ _ _ hEq => ?_⟩
  · exact hAbsent (c := '?') (by simp) (by simp [hEq])
  · exact hAbsent (c := '[') (by simp) (by simp [hEq])
  · exact hAbsent (c := '<') (by simp) (by simp [hEq])

theorem shape_reference {name : String} (h : IsTypeName name) :
    shape name.toList = .leaf (.reference name) := by
  rw [shape_of_hasNoForm h.hasNoForm, String.ofList_toList]

/-- A generic type has the shape of its name around its argument; with a name that is not known
the whole text is a scalar. -/
theorem shape_of_argument {name gap inside argument : List Char} (hName : HeadsGeneric name)
    (hGap : IsBlank gap) (hArgument : argument? inside = some argument) :
    shape (name ++ (gap ++ '<' :: (inside ++ ['>']))) =
      match generic? name with
      | some g => .applied g argument
      | none => .leaf (.primitive (String.ofList (name ++ (gap ++ '<' :: (inside ++ ['>']))))) := by
  have hLast : (name ++ (gap ++ '<' :: (inside ++ ['>']))).getLast? = some '>' := by
    rw [← List.cons_append, ← List.append_assoc, ← List.append_assoc, List.getLast?_concat]
  have hNotOptional : Text.dropEnding? ['?'] (name ++ (gap ++ '<' :: (inside ++ ['>']))) = none :=
    dropEnding?_of_getLast? (by decide) (by rw [hLast]; decide)
  have hNotArray :
      Text.dropEnding? ['[', ']'] (name ++ (gap ++ '<' :: (inside ++ ['>']))) = none :=
    dropEnding?_of_getLast? (by decide) (by rw [hLast]; decide)
  have hKind := spelledKind?_generic hName hGap (inside ++ ['>'])
  have hSplit := splitGeneric?_eq_some_iff.2 ⟨gap, inside, hName, hGap, hArgument, rfl⟩
  unfold spelledKind? at hKind
  unfold shape
  simp only [hNotOptional, hKind, hNotArray, hSplit]
  exact if_neg (by simp)

/-- A known generic name with brackets behind it is applied to what stands in them. -/
theorem shape_generic {name gap inside : List Char} {g : Generic} (hName : HeadsGeneric name)
    (hGeneric : generic? name = some g) (hGap : IsBlank gap)
    (hSome : Text.trimChars inside ≠ []) (hBreak : '\n' ∉ inside) :
    shape (name ++ (gap ++ '<' :: (inside ++ ['>']))) = .applied g (Text.trimChars inside) := by
  rw [shape_of_argument hName hGap (argument?_eq hSome hBreak), hGeneric]

/-! ## Readings -/

/-- What a generic type with an argument denotes. -/
def Generic.reading (g : Generic) (d : Descriptor) : Reading :=
  match g with
  | .observable => (.collection d, true)
  | .collection => (.collection d, false)
  | .nullable => (.nullable d, false)

section Readings

variable {text inside : List Char} {inner : Except Error Reading} {r : Reading}

theorem Shape.read_optional : (Shape.optional inside).read text inner = .ok r ↔
    ∃ d, inner = .ok (d, false) ∧ r = (.nullable d, false) := by
  rcases inner with e | ⟨d, isObservable⟩
  · simp [Shape.read, bind, Except.bind]
  · cases isObservable with
    | false => simp [Shape.read, bind, Except.bind, pure, Except.pure, eq_comm]
    | true => simp [Shape.read, bind, Except.bind, throw, throwThe, MonadExceptOf.throw]

theorem Shape.read_array : (Shape.array inside).read text inner = .ok r ↔
    ∃ d isObservable, inner = .ok (d, isObservable) ∧ r = (.collection d, false) := by
  rcases inner with e | ⟨d, isObservable⟩
  · simp [Shape.read, bind, Except.bind]
  · simp [Shape.read, bind, Except.bind, pure, Except.pure, eq_comm]

/-- A generic reads by what its inside reads as. -/
theorem Shape.read_applied {g : Generic} : (Shape.applied g inside).read text inner = .ok r ↔
    ∃ d isObservable, inner = .ok (d, isObservable) ∧ r = g.reading d := by
  rcases inner with e | ⟨d, isObservable⟩
  · cases g <;> simp [Shape.read, bind, Except.bind]
  · cases g <;>
      simp [Shape.read, bind, Except.bind, pure, Except.pure, eq_comm, Generic.reading]

/-- A reading is told by the shape of a text; the text itself stands in faults alone. -/
theorem Shape.read_congr (s : Shape) (a b : List Char) :
    s.read a inner = .ok r ↔ s.read b inner = .ok r := by
  cases s with
  | optional => rw [read_optional, read_optional]
  | array => rw [read_array, read_array]
  | applied => rw [read_applied, read_applied]
  | empty => rfl
  | leaf => rfl

/-- Texts that are trimmed to the same one denote the same. -/
theorem parseChars_congr {a b : List Char} (h : Text.trimChars a = Text.trimChars b) :
    parseChars a = .ok r ↔ parseChars b = .ok r := by
  rw [parse_eq a, parse_eq b, h]
  exact Shape.read_congr _ a b

/-- A text with a question mark is read by what stands in front of the mark. -/
theorem parseChars_optional_eq {cs : List Char} (hSome : Text.trimChars cs ≠ []) :
    parseChars (cs ++ ['?']) =
      (Shape.optional (Text.trimStartChars cs)).read (cs ++ ['?'])
        (parseChars (Text.trimStartChars cs)) := by
  have hTrim : Text.trimChars (cs ++ ['?']) = Text.trimStartChars cs ++ ['?'] :=
    Text.trimChars_append hSome [] rfl
  rw [parse_eq, hTrim, shape_optional]
  rfl

/-- It denotes a nullable type if that denotes a type that is no observable collection. -/
theorem parseChars_optional {cs : List Char} (hSome : Text.trimChars cs ≠ []) :
    parseChars (cs ++ ['?']) = .ok r ↔
      ∃ d, parseChars cs = .ok (d, false) ∧ r = (.nullable d, false) := by
  rw [parseChars_optional_eq hSome, Shape.read_optional]
  simp only [parseChars_congr (Text.trimChars_trimStartChars cs)]

/-- A text with square brackets is a collection, unless the whole of it gives a scalar. -/
theorem parseChars_array {cs : List Char} (hSome : Text.trimChars cs ≠ [])
    (hSpelled : spelledKind? (Text.trimChars (cs ++ ['[', ']'])) = none) :
    parseChars (cs ++ ['[', ']']) = .ok r ↔
      ∃ d isObservable, parseChars cs = .ok (d, isObservable) ∧ r = (.collection d, false) := by
  have hTrim : Text.trimChars (cs ++ ['[', ']']) = Text.trimStartChars cs ++ ['[', ']'] :=
    Text.trimChars_append hSome ['['] rfl
  rw [hTrim] at hSpelled
  rw [parse_eq, hTrim, shape_array hSpelled]
  show (Shape.array _).read _ (parseChars (Text.trimStartChars cs)) = .ok r ↔ _
  rw [Shape.read_array]
  simp only [parseChars_congr (Text.trimChars_trimStartChars cs)]

/-- A generic type denotes what its name makes of its argument. -/
theorem parseChars_generic {name gap inside : List Char} {g : Generic} (hName : HeadsGeneric name)
    (hGeneric : generic? name = some g) (hGap : IsBlank gap)
    (hSome : Text.trimChars inside ≠ []) (hBreak : '\n' ∉ inside) :
    parseChars (name ++ (gap ++ '<' :: (inside ++ ['>']))) = .ok r ↔
      ∃ d isObservable, parseChars inside = .ok (d, isObservable) ∧ r = g.reading d := by
  rw [parse_eq, trimChars_generic hName, shape_generic hName hGeneric hGap hSome hBreak]
  show (Shape.applied g _).read _ (parseChars (Text.trimChars inside)) = .ok r ↔ _
  rw [Shape.read_applied]
  simp only [parseChars_congr (Text.trimChars_idem inside)]

end Readings

end ViewAdapters.TypeText
