import ViewAdapters.Proofs.Text.Words
import ViewAdapters.Text.Blank

/-!
# Names in any letter case

A name of small letters is compared with the small form of a text. Two characters outside
ASCII have ASCII letters in their small forms: the Kelvin sign has a `k`, and the dotted I an
`i` with a mark behind it. A name without `k` is hence met by its ASCII spellings alone.

* `lowerAfter_of_inAnyCase`: the small form of a name in any case is the name.
* `exists_front_of_lowerAfter`: where a small form starts with a name, the text starts with
  that name in some case.
* `inAnyCase_of_lowerAfter`: a text whose small form is a name is that name in some case.
* `decapitalize_eq_iff`: two spellings become a name when their first character becomes small.
-/

namespace ViewAdapters.Text

/-- A text is a name but for the case of its ASCII letters. -/
def InAnyCase (name cs : List Char) : Prop := cs.map Char.toLower = name

instance (name cs : List Char) : Decidable (InAnyCase name cs) :=
  inferInstanceAs (Decidable (_ = _))

/-- Whether a character of ASCII is small form of ASCII characters alone. -/
def isClear (d : Char) : Bool := 0 < d.toNat && d.toNat < 128 && d != 'k'

/-- A name that no character outside ASCII can spell. -/
def IsClear (name : List Char) : Prop := ∀ d ∈ name, isClear d = true

instance (name : List Char) : Decidable (IsClear name) :=
  decidable_of_iff (name.all isClear = true) List.all_eq_true

/-- An ASCII text keeps its small form in front of any other text. -/
theorem exists_lowerAfter_append (before : List Char) {front : List Char}
    (h : ∀ c ∈ front, c.toNat < 128) (back : List Char) :
    ∃ rest, lowerAfter before (front ++ back) = front.map Char.toLower ++ rest := by
  induction front generalizing before with
  | nil => exact ⟨_, rfl⟩
  | cons c r ih =>
    have hc : c.toNat < 128 := h c (by simp)
    have hSigma : c ≠ 'Σ' := by
      rintro rfl
      revert hc
      decide
    obtain ⟨rest, hRest⟩ := ih (c :: before) fun d hd => h d (by simp [hd])
    refine ⟨rest, ?_⟩
    rw [List.cons_append, lowerAfter, if_neg hSigma, lowerChars_ascii hc, hRest]
    rfl

theorem toNat_of_isUpper {c : Char} (h : c.isUpper = true) : 65 ≤ c.toNat ∧ c.toNat ≤ 90 :=
  of_decide_eq_true h

/-- Only capital letters have another small form in ASCII, which is a small letter. -/
theorem toLower_cases (c : Char) :
    c.toLower = c ∨ (c.isUpper = true ∧ c.toLower.isLower = true) := by
  by_cases hAscii : c.toNat < 128
  · have hAll : ∀ n < 128, (Char.ofNat n).toLower = Char.ofNat n ∨
        ((Char.ofNat n).isUpper = true ∧ (Char.ofNat n).toLower.isLower = true) := by decide
    exact @forall_ascii (fun c => c.toLower = c ∨ (c.isUpper = true ∧ c.toLower.isLower = true))
      hAll c hAscii
  · refine .inl ?_
    unfold Char.toLower
    rw [dif_neg]
    rintro ⟨-, hCapital⟩
    have hCode : c.val.toNat ≤ 90 := hCapital
    have hSame : c.toNat = c.val.toNat := rfl
    omega

theorem eq_of_toLower {c d : Char} (h : c.toLower = d) (hd : d.isLower = false) : c = d := by
  rcases toLower_cases c with hSelf | ⟨-, hSmall⟩
  · exact hSelf.symm.trans h
  · rw [h, hd] at hSmall
    contradiction

theorem toLower_of_isBlank {c : Char} (h : isBlank c = true) : c.toLower = c := by
  refine (toLower_cases c).resolve_right ?_
  rintro ⟨hCapital, -⟩
  have hCode := toNat_of_isUpper hCapital
  simp only [isBlank, Bool.or_eq_true, Bool.and_eq_true, decide_eq_true_eq, beq_iff_eq] at h
  omega

section InAnyCase

variable {name cs : List Char}

theorem toNat_lt_of_toLower {c : Char} (h : c.toLower.toNat < 128) : c.toNat < 128 := by
  rcases toLower_cases c with hSelf | ⟨hCapital, -⟩
  · rwa [hSelf] at h
  · have hCode := toNat_of_isUpper hCapital
    omega

theorem InAnyCase.ascii (h : InAnyCase name cs) (hName : IsClear name) {c : Char}
    (hc : c ∈ cs) : c.toNat < 128 := by
  have hSmall := hName c.toLower (h ▸ List.mem_map_of_mem hc)
  simp only [isClear, Bool.and_eq_true, decide_eq_true_eq] at hSmall
  exact toNat_lt_of_toLower hSmall.1.2

/-- The small form of a name in any case is the name, wherever it stands. -/
theorem lowerAfter_of_inAnyCase (h : InAnyCase name cs) (hName : IsClear name)
    (before : List Char) : lowerAfter before cs = name := by
  rw [lowerAfter_ascii before fun c hc => h.ascii hName hc]
  exact h

/-- A character that has no other case stands in a name if it stands in a spelling of it. -/
theorem InAnyCase.mem_of_toLower (h : InAnyCase name cs) {c : Char} (hSelf : c.toLower = c)
    (hc : c ∈ cs) : c ∈ name := by
  rw [← h, ← hSelf]
  exact List.mem_map_of_mem hc

theorem InAnyCase.not_isBlank (h : InAnyCase name cs) (hName : name.any isBlank = false)
    {c : Char} (hc : c ∈ cs) : isBlank c = false := by
  refine Bool.eq_false_iff.2 fun hBlank => ?_
  have hMem := h.mem_of_toLower (toLower_of_isBlank hBlank) hc
  exact List.any_eq_false.1 hName c hMem hBlank

end InAnyCase

/-! ## Small forms of characters outside ASCII -/

/-- Whether a run leads out of ASCII, or to a `k` alone. -/
def CaseRun.isForeign (r : CaseRun) : Bool :=
  decide (128 ≤ (r.first : Int) + r.distance) ||
    (r.first == r.last && Char.ofNat ((r.first : Int) + r.distance).toNat == 'k')

theorem lowerRuns_isForeign : ∀ r ∈ lowerRuns, r.isForeign = true := by decide +kernel

theorem isClear_ofNat {n : Nat} (h : 128 ≤ n) : isClear (Char.ofNat n) = false := by
  refine Bool.eq_false_iff.2 fun hClear => ?_
  simp only [isClear, Bool.and_eq_true, decide_eq_true_eq] at hClear
  exact ofNat_ne_of_ascii hClear.1.1 hClear.1.2 h rfl

theorem isClear_apply {c : Char} (hc : 128 ≤ c.toNat) :
    isClear (CaseRun.apply lowerRuns c) = false := by
  unfold CaseRun.apply
  split
  · rename_i r hFind
    have hHolds := List.find?_some hFind
    simp only [CaseRun.holds, Bool.and_eq_true, decide_eq_true_eq] at hHolds
    have hForeign := lowerRuns_isForeign r (List.mem_of_find?_eq_some hFind)
    simp only [CaseRun.isForeign, Bool.or_eq_true, Bool.and_eq_true, decide_eq_true_eq,
      beq_iff_eq] at hForeign
    rcases hForeign with hOutside | ⟨hOne, hKelvin⟩
    · exact isClear_ofNat (by omega)
    · have hCode : c.toNat = r.first := by omega
      rw [hCode, hKelvin]
      rfl
  · rw [← Char.ofNat_toNat c]
    exact isClear_ofNat hc

/-- In front of a text stands a clear character only if it stems from an ASCII character or
from a dotted I, which leaves a mark behind it. -/
theorem lowerAfter_cons_clear {before r rest : List Char} {c d : Char}
    (h : lowerAfter before (c :: r) = d :: rest) (hd : isClear d = true) :
    (c.toLower = d ∧ rest = lowerAfter (c :: before) r) ∨
      (d = 'i' ∧ ∃ more, rest = Char.ofNat 0x307 :: more) := by
  rw [lowerAfter] at h
  by_cases hAscii : c.toNat < 128
  · have hSigma : c ≠ 'Σ' := by
      rintro rfl
      revert hAscii
      decide
    rw [if_neg hSigma, lowerChars_ascii hAscii, List.singleton_append] at h
    injection h with hHead hTail
    exact .inl ⟨hHead, hTail.symm⟩
  split at h
  · -- both forms of a sigma lie outside ASCII
    have hGreek : isClear (if endsWord before r then 'ς' else 'σ') = false := by
      split <;> decide
    injection h with hHead hTail
    rw [hHead, hd] at hGreek
    contradiction
  · unfold lowerChars at h
    rw [if_neg hAscii] at h
    split at h
    · injection h with hHead hTail
      exact .inr ⟨hHead.symm, _, hTail.symm⟩
    · injection h with hHead hTail
      have hForeign := isClear_apply (Nat.le_of_not_lt hAscii)
      rw [hHead, hd] at hForeign
      contradiction

theorem lowerAfter_eq_nil {before cs : List Char} (h : lowerAfter before cs = []) : cs = [] := by
  cases cs with
  | nil => rfl
  | cons c r =>
    exfalso
    rw [lowerAfter] at h
    split at h
    · contradiction
    · unfold lowerChars at h
      split at h
      · contradiction
      · split at h <;> contradiction

/-! ## Names in small forms -/

/-- Where a small form starts with a name, the text starts with that name in some case. A name
that ends in `i` is only told so if nothing follows it. -/
theorem exists_front_of_lowerAfter {name rest : List Char} (hName : IsClear name)
    (hLast : rest = [] ∨ name.getLast? ≠ some 'i') {before cs : List Char}
    (h : lowerAfter before cs = name ++ rest) :
    ∃ front back, cs = front ++ back ∧ InAnyCase name front ∧
      lowerAfter (front.reverse ++ before) back = rest := by
  induction name generalizing before cs with
  | nil => exact ⟨[], cs, rfl, rfl, h⟩
  | cons d name ih =>
    have hClear : isClear d = true := hName d (by simp)
    cases cs with
    | nil => contradiction
    | cons c r =>
      rcases lowerAfter_cons_clear h hClear with ⟨hHead, hTail⟩ | ⟨rfl, more, hMark⟩
      · have hName' : IsClear name := fun e he => hName e (by simp [he])
        have hLast' : rest = [] ∨ name.getLast? ≠ some 'i' := by
          refine hLast.imp_right fun hNot => ?_
          cases name with
          | nil => simp
          | cons e name => simpa [List.getLast?_cons_cons] using hNot
        obtain ⟨front, back, hSplit, hFront, hBack⟩ := ih hName' hLast' hTail.symm
        refine ⟨c :: front, back, by rw [hSplit, List.cons_append], ?_, by simpa using hBack⟩
        rw [InAnyCase, List.map_cons, hHead, hFront]
      · -- the mark behind a dotted I stands neither in the name nor behind it
        exfalso
        cases name with
        | nil =>
          rcases hLast with rfl | hNot
          · cases hMark
          · exact hNot rfl
        | cons e name =>
          injection hMark with hMark
          have hClear' := hName e (by simp)
          rw [hMark] at hClear'
          revert hClear'
          decide

/-- A text whose small form is a name is that name in some case. -/
theorem inAnyCase_of_lowerAfter {name before cs : List Char} (hName : IsClear name)
    (h : lowerAfter before cs = name) : InAnyCase name cs := by
  rw [← List.append_nil name] at h
  obtain ⟨front, back, rfl, hFront, hBack⟩ := exists_front_of_lowerAfter hName (.inl rfl) h
  rw [lowerAfter_eq_nil hBack, List.append_nil]
  exact hFront

/-! ## First characters -/

/-- Whether a text starts with a small letter that is small form of its capital letter alone. -/
def startsSmall (s : String) : Bool :=
  s.toList.head?.any fun d => d.isLower && isClear d && d != 'i'

theorem isSmall_cases {d : Char} (hd : d.isLower = true) :
    d.toNat < 128 ∧ d.toLower = d ∧ d.toUpper.toLower = d := by
  have hAll : ∀ n < 128, (Char.ofNat n).isLower = true → (Char.ofNat n).toLower = Char.ofNat n ∧
      (Char.ofNat n).toUpper.toLower = Char.ofNat n := by decide
  have hAscii : d.toNat < 128 := by
    have hLast : decide (d.val ≤ 122) = true := (Bool.and_eq_true_iff.1 hd).2
    exact Nat.lt_of_le_of_lt (UInt32.le_iff_toNat_le.1 (of_decide_eq_true hLast)) (by decide)
  exact ⟨hAscii, @forall_ascii (fun d => d.isLower = true → d.toLower = d ∧
    d.toUpper.toLower = d) hAll d hAscii hd⟩

theorem eq_toUpper_of_toLower {c d : Char} (hCapital : c.isUpper = true) (h : c.toLower = d) :
    c = d.toUpper := by
  have hRange := toNat_of_isUpper hCapital
  have hAll : ∀ n < 128, (Char.ofNat n).isUpper = true →
      Char.ofNat n = (Char.ofNat n).toLower.toUpper := by decide
  rw [← h]
  exact @forall_ascii (fun c => c.isUpper = true → c = c.toLower.toUpper) hAll c (by omega)
    hCapital

/-- A clear character other than `i` is the small form of ASCII characters alone. -/
theorem lowerChars_append_eq_cons {c d : Char} {r rest : List Char}
    (h : lowerChars c ++ rest = d :: r) (hClear : isClear d = true) (hDotted : d ≠ 'i') :
    c.toLower = d ∧ rest = r := by
  by_cases hAscii : c.toNat < 128
  · rw [lowerChars_ascii hAscii, List.singleton_append] at h
    exact List.cons_eq_cons.1 h
  · exfalso
    unfold lowerChars at h
    rw [if_neg hAscii] at h
    split at h
    · exact hDotted (List.head_eq_of_cons_eq h).symm
    · have hForeign := isClear_apply (Nat.le_of_not_lt hAscii)
      rw [List.head_eq_of_cons_eq h, hClear] at hForeign
      contradiction

/-- What becomes a name with a small first letter is that name, with this letter or its capital
form. -/
theorem decapitalize_eq_iff {s w : String} (hSmall : startsSmall w = true) :
    decapitalize s = w ↔ s = w ∨ s = capitalize w := by
  cases hName : w.toList with
  | nil =>
    rw [startsSmall, hName] at hSmall
    contradiction
  | cons d r =>
    rw [startsSmall, hName, List.head?_cons, Option.any_some] at hSmall
    simp only [Bool.and_eq_true, bne_iff_ne] at hSmall
    obtain ⟨⟨hLower, hClear⟩, hDotted⟩ := hSmall
    obtain ⟨hAscii, hSelf, hCapital⟩ := isSmall_cases hLower
    have hCapitalized : (capitalize w).toList = d.toUpper :: r := by
      rw [toList_capitalize_cons hName, upperChars_ascii hAscii, List.singleton_append]
    constructor
    · intro h
      cases hText : s.toList with
      | nil =>
        rw [decapitalize, hText] at h
        exact .inl h
      | cons c rest =>
        have hChars := toList_decapitalize_cons hText
        rw [h, hName] at hChars
        obtain ⟨hFirst, hRest⟩ := lowerChars_append_eq_cons hChars.symm hClear hDotted
        rcases toLower_cases c with hSame | ⟨hUpper, -⟩
        · refine .inl (String.toList_inj.1 ?_)
          rw [hText, hName, hRest, ← hFirst, hSame]
        · refine .inr (String.toList_inj.1 ?_)
          rw [hText, hCapitalized, hRest, eq_toUpper_of_toLower hUpper hFirst]
    · rintro (rfl | rfl)
      · refine String.toList_inj.1 ?_
        rw [toList_decapitalize_cons hName, lowerChars_ascii hAscii, hSelf, hName,
          List.singleton_append]
      · have hUpper : d.toUpper.toNat < 128 := toNat_lt_of_toLower (hCapital.symm ▸ hAscii)
        refine String.toList_inj.1 ?_
        rw [toList_decapitalize_cons hCapitalized, lowerChars_ascii hUpper, hCapital, hName,
          List.singleton_append]

end ViewAdapters.Text
