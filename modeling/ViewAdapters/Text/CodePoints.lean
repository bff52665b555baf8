/-!
# Code points

A document can hold surrogates, which are code points of no character. A text
spells a surrogate by two characters, a mark and a character that tells which
surrogate it is, so that it stays a sequence of characters. The mark is the last
character below the surrogates and is spelled by two characters as well. Those
behind a mark start right above the surrogates, so that texts have the order of
their code points.

* `codePoints_flatMap_spell`: code points that are spelled are read back.
* `codePoints_of_unmarked`: without a mark every character is a code point.
* `codePoints_append_cons`: an ordinary character separates the code points around it.
-/

namespace ViewAdapters.Text

def isSurrogate (n : Nat) : Bool := 0xD800 ≤ n && n ≤ 0xDFFF

/-- The first of the two characters that spell a surrogate. -/
def mark : Char := '\ud7ff'

/-- The difference between the second character and the code point that it tells. -/
def markOffset : Nat := 0x801

/-- Whether a character tells a code point behind a mark. -/
def isMarked (c : Char) : Bool := 0xE000 ≤ c.toNat && c.toNat ≤ 0xE800

/-- The characters that spell a code point. -/
def spell (n : Nat) : List Char :=
  if n = mark.toNat || isSurrogate n then [mark, Char.ofNat (n + markOffset)] else [Char.ofNat n]

/-- The code points that characters spell. A mark that nothing follows stands for itself. -/
def codePoints : List Char → List Nat
  | [] => []
  | [c] => [c.toNat]
  | c :: d :: r =>
    if c = mark && isMarked d then (d.toNat - markOffset) :: codePoints r
    else c.toNat :: codePoints (d :: r)

/-- The text of a sequence of code points. -/
def ofCodePoints (ns : List Nat) : String := String.ofList (ns.flatMap spell)

theorem codePoints_cons {c : Char} (h : c ≠ mark) (r : List Char) :
    codePoints (c :: r) = c.toNat :: codePoints r := by
  cases r with
  | nil => rfl
  | cons d r => simp [codePoints, h]

theorem codePoints_mark {d : Char} (h : isMarked d = true) (r : List Char) :
    codePoints (mark :: d :: r) = (d.toNat - markOffset) :: codePoints r := by
  simp [codePoints, h]

theorem toNat_ofNat {n : Nat} (hSurrogate : isSurrogate n = false) (hLast : n < 0x110000) :
    (Char.ofNat n).toNat = n := by
  have hValid : n.isValidChar := by
    simp only [isSurrogate, Bool.and_eq_false_iff, decide_eq_false_iff_not] at hSurrogate
    simp only [Nat.isValidChar]
    omega
  rw [Char.ofNat, dif_pos hValid]
  rfl

/-- The characters of a code point are read back, whatever follows them. -/
theorem codePoints_spell {n : Nat} (h : n < 0x110000) (r : List Char) :
    codePoints (spell n ++ r) = n :: codePoints r := by
  unfold spell
  split
  · rename_i hMarked
    have hRange : 0xD7FF ≤ n ∧ n ≤ 0xDFFF := by
      rcases Bool.or_eq_true_iff.1 hMarked with hMark | hSurrogate
      · rw [of_decide_eq_true hMark]
        decide
      · simp only [isSurrogate, Bool.and_eq_true, decide_eq_true_eq] at hSurrogate
        omega
    have hSecond : (Char.ofNat (n + markOffset)).toNat = n + markOffset := by
      refine toNat_ofNat ?_ (by simp only [markOffset]; omega)
      simp [isSurrogate, markOffset]
      omega
    have hTells : isMarked (Char.ofNat (n + markOffset)) = true := by
      rw [isMarked, hSecond]
      simp [markOffset]
      omega
    rw [List.cons_append, List.cons_append, List.nil_append, codePoints_mark hTells, hSecond,
      Nat.add_sub_cancel]
  · rename_i hPlain
    simp only [Bool.or_eq_true, decide_eq_true_eq, not_or, Bool.not_eq_true] at hPlain
    have hChar := toNat_ofNat hPlain.2 h
    have hNe : Char.ofNat n ≠ mark := fun hMark => hPlain.1 (by rw [← hMark, hChar])
    rw [List.cons_append, List.nil_append, codePoints_cons hNe, hChar]

theorem codePoints_flatMap_spell {ns : List Nat} (h : ∀ n ∈ ns, n < 0x110000) :
    codePoints (ns.flatMap spell) = ns := by
  induction ns with
  | nil => rfl
  | cons n r ih =>
    rw [List.flatMap_cons, codePoints_spell (h n (by simp)),
      ih fun m hm => h m (List.mem_cons_of_mem _ hm)]

theorem codePoints_of_unmarked {cs : List Char} (h : mark ∉ cs) :
    codePoints cs = cs.map Char.toNat := by
  induction cs with
  | nil => rfl
  | cons c r ih =>
    rw [List.mem_cons, not_or] at h
    rw [codePoints_cons (Ne.symm h.1), ih h.2, List.map_cons]

/-- An ordinary character separates the code points on both its sides. -/
theorem codePoints_append_cons {c : Char} (hMark : c ≠ mark) (hMarked : isMarked c = false)
    (front rest : List Char) :
    codePoints (front ++ c :: rest) = codePoints front ++ c.toNat :: codePoints rest := by
  fun_induction codePoints front with
  | case1 => exact codePoints_cons hMark rest
  | case2 d =>
    simp only [List.cons_append, List.nil_append, codePoints, hMarked, Bool.and_false,
      Bool.false_eq_true, if_false, codePoints_cons hMark]
  | case3 d e r hTells ih => simp only [List.cons_append, codePoints, hTells, if_true, ih]
  | case4 d e r hPlain ih =>
    simp only [List.cons_append] at ih ⊢
    simp only [codePoints, hPlain, ih, Bool.false_eq_true, if_false]

/-- Only the null character itself has the code point zero. -/
theorem zero_mem_codePoints_iff {cs : List Char} : 0 ∈ codePoints cs ↔ '\x00' ∈ cs := by
  have hZero : ∀ c : Char, 0 = c.toNat ↔ '\x00' = c := fun c =>
    ⟨fun h => Char.toNat_inj.1 h, fun h => h ▸ rfl⟩
  fun_induction codePoints cs with
  | case1 => simp
  | case2 c => simp only [List.mem_singleton, hZero]
  | case3 c d r hTells ih =>
    simp only [Bool.and_eq_true, decide_eq_true_eq, isMarked] at hTells
    have hTold : 0 ≠ d.toNat - markOffset := by
      simp only [markOffset]
      omega
    have hFirst : '\x00' ≠ c := by
      rw [hTells.1]
      decide
    have hSecond : '\x00' ≠ d := by
      rintro rfl
      exact absurd hTells.2.1 (by decide)
    simp [ih, hTold, hFirst, hSecond]
  | case4 c d r hPlain ih => simp only [List.mem_cons, hZero, ih]

end ViewAdapters.Text
