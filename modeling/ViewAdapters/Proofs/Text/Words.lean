import Mathlib.Data.List.TakeWhile
import ViewAdapters.Order.SortedMap
import ViewAdapters.Target.Resolved
import ViewAdapters.Text.Casing

/-!
# Words of composed texts

A text is put together from others, and its words are theirs as long as a break stands where
two of them meet. Where none does, two words grow into one.

* `Target.words_append`: the words of two texts that meet at a break.
* `Target.mem_words_of_ending`: the words of a text with another ending.
* `Target.mem_words_of_mark`: a mark in front of a text changes its first word alone.
* `Text.intercalate_induction`: what joining keeps is passed on from the members of a list.
* `Text.not_mem_decapitalize`, `Text.not_mem_capitalize`: another letter case brings no
  uncased character into a text.
-/

namespace ViewAdapters

namespace Target

/-! ## Words of characters -/

theorem isWordPart_of_isWordStart {c : Char} (h : isWordStart c = true) : isWordPart c = true := by
  unfold isWordStart at h
  unfold isWordPart Char.isAlphanum
  cases hAlpha : c.isAlpha <;> simp_all

/-- Words split at a break: all that is said of composed texts comes from this equation. -/
theorem wordsFrom_append_break {c : Char} (hc : isWordPart c = false) (current l r : List Char) :
    wordsFrom current (l ++ c :: r) = wordsFrom current l ++ wordsFrom [] r := by
  have hStart : isWordStart c = false := Bool.eq_false_iff.2 fun h => by
    rw [isWordPart_of_isWordStart h] at hc
    contradiction
  induction l generalizing current with
  | nil => cases current <;> simp [wordsFrom, hc, hStart]
  | cons d l ih =>
    cases current with
    | nil => by_cases hd : isWordStart d <;> simp [wordsFrom, hd, ih]
    | cons e current => by_cases hd : isWordPart d <;> simp [wordsFrom, hd, ih]

/-- A break in front of a text belongs to no word. -/
theorem wordsFrom_break {c : Char} (hc : isWordPart c = false) (r : List Char) :
    wordsFrom [] (c :: r) = wordsFrom [] r :=
  wordsFrom_append_break hc [] [] r

/-- A word that is begun takes the word characters that follow. -/
theorem wordsFrom_begun {current : List Char} (hBegun : current ≠ []) (l : List Char) :
    wordsFrom current l =
      (current.reverse ++ l.takeWhile isWordPart) :: wordsFrom [] (l.dropWhile isWordPart) := by
  induction l generalizing current with
  | nil => simp [wordsFrom, hBegun]
  | cons c l ih =>
    by_cases hc : isWordPart c
    · simp [wordsFrom, hBegun, hc, ih]
    · simp [wordsFrom, hBegun, hc, wordsFrom_break]

/-- A word that is begun takes a text of word characters as a whole. -/
theorem wordsFrom_of_parts {current : List Char} (hBegun : current ≠ []) {l : List Char}
    (hParts : l.all isWordPart = true) : wordsFrom current l = [current.reverse ++ l] := by
  have hTake : l.takeWhile isWordPart = l :=
    List.takeWhile_eq_self_iff.2 (List.all_eq_true.1 hParts)
  have hDrop : l.dropWhile isWordPart = [] :=
    List.dropWhile_eq_nil_iff.2 (List.all_eq_true.1 hParts)
  rw [wordsFrom_begun hBegun, hTake, hDrop]
  rfl

/-- Words behind the first word characters are words. -/
theorem mem_wordsFrom_of_dropWhile {w l : List Char}
    (h : w ∈ wordsFrom [] (l.dropWhile isWordPart)) : w ∈ wordsFrom [] l := by
  induction l with
  | nil => exact h
  | cons c l ih =>
    by_cases hc : isWordPart c
    · rw [List.dropWhile_cons_of_pos hc] at h
      by_cases hStart : isWordStart c
      · simp [wordsFrom, hStart, wordsFrom_begun, h]
      · simpa [wordsFrom, hStart] using ih h
    · rwa [List.dropWhile_cons_of_neg hc] at h

/-- Reading a text leaves some words read and one begun, whatever follows. -/
theorem exists_wordsFrom_append (current l : List Char) :
    ∃ closed begun, ∀ r, wordsFrom current (l ++ r) = closed ++ wordsFrom begun r := by
  induction l generalizing current with
  | nil => exact ⟨[], current, fun r => rfl⟩
  | cons c l ih =>
    by_cases hBegun : current = []
    · by_cases hc : isWordStart c
      · obtain ⟨closed, begun, hRead⟩ := ih [c]
        exact ⟨closed, begun, fun r => by simp [wordsFrom, hBegun, hc, hRead]⟩
      · obtain ⟨closed, begun, hRead⟩ := ih []
        exact ⟨closed, begun, fun r => by simp [wordsFrom, hBegun, hc, hRead]⟩
    · by_cases hc : isWordPart c
      · obtain ⟨closed, begun, hRead⟩ := ih (c :: current)
        exact ⟨closed, begun, fun r => by simp [wordsFrom, hBegun, hc, hRead]⟩
      · obtain ⟨closed, begun, hRead⟩ := ih []
        exact ⟨current.reverse :: closed, begun, fun r => by
          simp [wordsFrom, hBegun, hc, hRead]⟩

theorem mem_of_mem_wordsFrom {current l w : List Char} (h : w ∈ wordsFrom current l) {c : Char}
    (hc : c ∈ w) : c ∈ current ∨ c ∈ l := by
  induction l generalizing current with
  | nil =>
    unfold wordsFrom at h
    split at h
    · contradiction
    · rw [List.mem_singleton.1 h] at hc
      exact .inl (List.mem_reverse.1 hc)
  | cons d l ih =>
    unfold wordsFrom at h
    split at h
    · split at h
      · rcases ih h with hIn | hIn
        · exact .inr (by simp [List.mem_singleton.1 hIn])
        · exact .inr (List.mem_cons_of_mem _ hIn)
      · rcases ih h with hIn | hIn
        · contradiction
        · exact .inr (List.mem_cons_of_mem _ hIn)
    · split at h
      · rcases ih h with hIn | hIn
        · rcases List.mem_cons.1 hIn with rfl | hIn
          · exact .inr List.mem_cons_self
          · exact .inl hIn
        · exact .inr (List.mem_cons_of_mem _ hIn)
      · rcases List.mem_cons.1 h with rfl | h
        · exact .inl (List.mem_reverse.1 hc)
        · rcases ih h with hIn | hIn
          · contradiction
          · exact .inr (List.mem_cons_of_mem _ hIn)

/-! ## Words of texts -/

/-- Whether a text starts with a character that is in no word. -/
def startsWithBreak (s : String) : Bool := s.toList.head?.any (!isWordPart ·)

/-- Whether a text ends with a character that is in no word. -/
def endsWithBreak (s : String) : Bool := s.toList.getLast?.any (!isWordPart ·)

theorem mem_words {s w : String} : w ∈ words s ↔ w.toList ∈ wordsFrom [] s.toList := by
  constructor
  · intro h
    obtain ⟨cs, hIn, rfl⟩ := List.mem_map.1 h
    rwa [String.toList_ofList]
  · exact fun h => List.mem_map.2 ⟨_, h, String.ofList_toList⟩

theorem words_append {s t : String} (h : endsWithBreak s = true ∨ startsWithBreak t = true) :
    words (s ++ t) = words s ++ words t := by
  rw [words, words, words, ← List.map_append, String.toList_append]
  congr 1
  rcases h with h | h
  · obtain ⟨c, hLast, hc⟩ := (Option.any_eq_true _ _).1 h
    obtain ⟨front, hFront⟩ := List.getLast?_eq_some_iff.1 hLast
    have hBreak : isWordPart c = false := by simpa using hc
    rw [hFront, List.append_assoc, List.singleton_append, wordsFrom_append_break hBreak,
      wordsFrom_append_break hBreak]
    simp [wordsFrom]
  · obtain ⟨c, hHead, hc⟩ := (Option.any_eq_true _ _).1 h
    obtain ⟨rest, hRest⟩ := List.head?_eq_some_iff.1 hHead
    have hBreak : isWordPart c = false := by simpa using hc
    rw [hRest, wordsFrom_append_break hBreak, wordsFrom_break hBreak]

theorem endsWithBreak_append {s t : String} (h : endsWithBreak t = true) :
    endsWithBreak (s ++ t) = true := by
  obtain ⟨c, hLast, hc⟩ := (Option.any_eq_true _ _).1 h
  simp [endsWithBreak, String.toList_append, List.getLast?_append, hLast, hc]

/-- What stands behind a break has its words in the whole text. -/
theorem mem_words_of_suffix {s t w : String} {front : List Char} {c : Char}
    (hs : s.toList = front ++ c :: t.toList) (hc : isWordPart c = false) (h : w ∈ words t) :
    w ∈ words s := by
  rw [mem_words, hs, wordsFrom_append_break hc]
  exact List.mem_append_right _ (mem_words.1 h)

/-- A text with another ending of one word: its words have that ending, or stand in the text
whatever it ends with. -/
theorem mem_words_of_ending {s ending w : String} {c : Char} {r : List Char}
    (hEnding : ending.toList = c :: r) (hStart : isWordStart c = true)
    (hParts : r.all isWordPart = true) (h : w ∈ words (s ++ ending)) :
    ending.toList <:+ w.toList ∨ ∀ t, w ∈ words (s ++ t) := by
  obtain ⟨closed, begun, hRead⟩ := exists_wordsFrom_append [] s.toList
  have hGrown : wordsFrom begun (c :: r) = [begun.reverse ++ c :: r] := by
    have hPart := isWordPart_of_isWordStart hStart
    by_cases hBegun : begun = []
    · simp [hBegun, wordsFrom, hStart, wordsFrom_of_parts _ hParts]
    · simp [hBegun, wordsFrom, hPart, wordsFrom_of_parts _ hParts]
  rw [mem_words, String.toList_append, hEnding, hRead, hGrown, List.mem_append] at h
  rcases h with h | h
  · refine .inr fun t => ?_
    rw [mem_words, String.toList_append, hRead]
    exact List.mem_append_left _ h
  · rw [List.mem_singleton.1 h, hEnding]
    exact .inl (List.suffix_append _ _)

theorem mem_words_of_mark {s w : String} (h : w ∈ words ("_" ++ s)) :
    w.toList.head? = some '_' ∨ w ∈ words s := by
  have hRead : wordsFrom [] ("_" ++ s).toList =
      ('_' :: s.toList.takeWhile isWordPart) ::
        wordsFrom [] (s.toList.dropWhile isWordPart) := by
    rw [String.toList_append]
    exact wordsFrom_begun (by simp) s.toList
  rw [mem_words, hRead] at h
  rcases List.mem_cons.1 h with h | h
  · exact .inl (by rw [h]; rfl)
  · exact .inr (mem_words.2 (mem_wordsFrom_of_dropWhile h))

theorem mem_of_mem_words {s w : String} (h : w ∈ words s) {c : Char} (hc : c ∈ w.toList) :
    c ∈ s.toList :=
  (mem_of_mem_wordsFrom (mem_words.1 h) hc).resolve_left List.not_mem_nil

end Target

namespace Text

/-! ## Joined texts -/

/-- What the empty text has and joining keeps is passed on from the members of a list. -/
theorem intercalate_induction {motive : String → Prop} {between : String} (hEmpty : motive "")
    (hJoin : ∀ {s t}, motive s → motive t → motive (s ++ between ++ t)) {members : List String}
    (h : ∀ s ∈ members, motive s) : motive (between.intercalate members) := by
  induction members with
  | nil => exact hEmpty
  | cons s rest ih =>
    rw [List.forall_mem_cons] at h
    by_cases hRest : rest = []
    · rw [hRest, String.intercalate_singleton]
      exact h.1
    · rw [String.intercalate_cons_of_ne_nil hRest]
      exact hJoin h.1 (ih h.2)

/-! ## Uncased characters and letter case -/

/-- Whether a character of ASCII is no letter, so that no other letter case gives it. -/
def isUncased (c : Char) : Bool := 0 < c.toNat && c.toNat < 128 && !c.isAlpha

/-- Large codes are those of characters outside ASCII, or of none. -/
theorem ofNat_ne_of_ascii {d : Char} (hPos : 0 < d.toNat) (hAscii : d.toNat < 128) {n : Nat}
    (h : 128 ≤ n) : Char.ofNat n ≠ d := by
  intro hSame
  by_cases hValid : n.isValidChar
  · have hChar : Char.ofNat n = Char.ofNatAux n hValid := dif_pos hValid
    have hCode : n = d.toNat := congrArg Char.toNat (hChar.symm.trans hSame)
    omega
  · have hNull : Char.ofNat n = '\x00' := dif_neg hValid
    have hCode : 0 = d.toNat := congrArg Char.toNat (hNull.symm.trans hSame)
    omega

theorem ofNat_ne_of_isUncased {d : Char} (hd : isUncased d = true) {n : Nat} (h : 128 ≤ n) :
    Char.ofNat n ≠ d := by
  simp only [isUncased, Bool.and_eq_true, decide_eq_true_eq] at hd
  exact ofNat_ne_of_ascii hd.1.1 hd.1.2 h

theorem ne_of_isAlpha {c d : Char} (hd : isUncased d = true) (hc : c.isAlpha = true) : c ≠ d := by
  rintro rfl
  simp [isUncased, hc] at hd

/-- Whether the images of a run are letters or lie outside ASCII. -/
def CaseRun.givesLetters (r : CaseRun) : Bool :=
  decide (128 ≤ (r.first : Int) + r.distance) ||
    (r.first == r.last && (Char.ofNat ((r.first : Int) + r.distance).toNat).isAlpha)

theorem CaseRun.apply_ne {runs : List CaseRun} (hRuns : ∀ r ∈ runs, r.givesLetters = true)
    {c d : Char} (hd : isUncased d = true) (hc : c ≠ d) : CaseRun.apply runs c ≠ d := by
  unfold CaseRun.apply
  split
  · rename_i r hFind
    have hHolds := List.find?_some hFind
    simp only [CaseRun.holds, Bool.and_eq_true, decide_eq_true_eq] at hHolds
    have hLetters := hRuns r (List.mem_of_find?_eq_some hFind)
    simp only [CaseRun.givesLetters, Bool.or_eq_true, Bool.and_eq_true, decide_eq_true_eq,
      beq_iff_eq] at hLetters
    rcases hLetters with hOutside | ⟨hOne, hAlpha⟩
    · exact ofNat_ne_of_isUncased hd (by omega)
    · have hCode : c.toNat = r.first := by omega
      rw [hCode]
      exact ne_of_isAlpha hd hAlpha
  · exact hc

/-- What holds of each ASCII code holds of each ASCII character. -/
theorem forall_ascii {P : Char → Prop} (h : ∀ n < 128, P (Char.ofNat n)) {c : Char}
    (hc : c.toNat < 128) : P c := by
  have hCode := h c.toNat hc
  rwa [Char.ofNat_toNat] at hCode

/-- A letter case that changes letters of ASCII alone, to letters, gives no uncased character. -/
theorem ne_of_ascii {f : Char → Char}
    (hAscii : ∀ n < 128, f (Char.ofNat n) = Char.ofNat n ∨ (f (Char.ofNat n)).isAlpha = true)
    {c d : Char} (hd : isUncased d = true) (hCode : c.toNat < 128) (hc : c ≠ d) : f c ≠ d := by
  rcases @forall_ascii (fun c => f c = c ∨ (f c).isAlpha = true) hAscii c hCode with
    hSame | hAlpha
  · rwa [hSame]
  · exact ne_of_isAlpha hd hAlpha

theorem not_mem_lowerChars {c d : Char} (hd : isUncased d = true) (hc : c ≠ d) :
    d ∉ lowerChars c := by
  unfold lowerChars
  split
  · rename_i hCode
    exact fun h => ne_of_ascii (by decide) hd hCode hc (List.mem_singleton.1 h).symm
  · split
    · simp only [List.mem_cons, List.not_mem_nil, or_false, not_or]
      exact ⟨(ne_of_isAlpha hd (by decide)).symm,
        (ofNat_ne_of_isUncased hd (by decide)).symm⟩
    · exact fun h => CaseRun.apply_ne (by decide +kernel) hd hc (List.mem_singleton.1 h).symm

theorem not_mem_upperChars {c d : Char} (hd : isUncased d = true) (hc : c ≠ d) :
    d ∉ upperChars c := by
  have hExpansions : ∀ e ∈ upperExpansions, ∀ n ∈ e.2, 128 ≤ n ∨ (Char.ofNat n).isAlpha = true := by
    decide
  unfold upperChars
  split
  · rename_i hCode
    exact fun h => ne_of_ascii (by decide) hd hCode hc (List.mem_singleton.1 h).symm
  · split
    · rename_i codes hCodes
      intro h
      obtain ⟨n, hn, hSame⟩ := List.mem_map.1 h
      rcases hExpansions _ (SortedMap.mem_of_lookup hCodes) n hn with hOutside | hAlpha
      · exact ofNat_ne_of_isUncased hd hOutside hSame
      · exact ne_of_isAlpha hd hAlpha hSame
    · exact fun h => CaseRun.apply_ne (by decide +kernel) hd hc (List.mem_singleton.1 h).symm

section LetterCase

variable {s : String} {d : Char}

theorem not_mem_decapitalize (hd : isUncased d = true) (hs : d ∉ s.toList) :
    d ∉ (decapitalize s).toList := by
  cases hChars : s.toList with
  | nil => rwa [decapitalize, hChars]
  | cons c r =>
    rw [hChars, List.mem_cons, not_or] at hs
    rw [toList_decapitalize_cons hChars, List.mem_append, not_or]
    exact ⟨not_mem_lowerChars hd (Ne.symm hs.1), hs.2⟩

theorem not_mem_capitalize (hd : isUncased d = true) (hs : d ∉ s.toList) :
    d ∉ (capitalize s).toList := by
  cases hChars : s.toList with
  | nil => rwa [capitalize, hChars]
  | cons c r =>
    rw [hChars, List.mem_cons, not_or] at hs
    rw [toList_capitalize_cons hChars, List.mem_append, not_or]
    exact ⟨not_mem_upperChars hd (Ne.symm hs.1), hs.2⟩

end LetterCase

end Text
end ViewAdapters
