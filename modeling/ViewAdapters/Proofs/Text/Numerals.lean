import Mathlib.Algebra.Group.Nat.Defs
import Mathlib.Data.List.Basic
import ViewAdapters.Proofs.Text.Words
import ViewAdapters.Text.Integer

/-!
# Numerals

What is written for an integer is read as that integer, as long as it has not too many digits.

* `digitValues?_of_isDigit`: ASCII digits are read each by itself.
* `readInteger?_numeral`: the text of an integer is read as that integer.
-/

namespace ViewAdapters.Text

/-- The value of an ASCII digit. -/
def asciiDigit (c : Char) : Nat := c.toNat - '0'.toNat

section Digits

variable {c : Char} {cs : List Char}

theorem toNat_of_isDigit (h : c.isDigit = true) : c.toNat < 128 :=
  Nat.lt_of_le_of_lt (Char.isDigit_iff_toNat.1 h).2 (by decide)

theorem digitValue?_of_isDigit (h : c.isDigit = true) : digitValue? c = some (asciiDigit c) := by
  have hAll : ∀ n < 128, (Char.ofNat n).isDigit = true →
      digitValue? (Char.ofNat n) = some (asciiDigit (Char.ofNat n)) := by decide
  exact @forall_ascii (fun c => c.isDigit = true → digitValue? c = some (asciiDigit c)) hAll c
    (toNat_of_isDigit h) h

theorem digitValues?_cons {r : List Char} (hr : r ≠ []) (hNext : '_' ∉ r) :
    digitValues? (c :: r) = (digitValue? c).bind fun d => (digitValues? r).map (d :: ·) := by
  cases r with
  | nil => contradiction
  | cons e r =>
    rw [digitValues?]
    · cases digitValue? c <;> cases digitValues? (e :: r) <;> rfl
    · exact hr
    · rintro r' ⟨⟩
      exact hNext List.mem_cons_self

/-- ASCII digits are read each by itself. -/
theorem digitValues?_of_isDigit (h : ∀ d ∈ cs, d.isDigit = true) (hSome : cs ≠ []) :
    digitValues? cs = some (cs.map asciiDigit) := by
  induction cs with
  | nil => exact absurd rfl hSome
  | cons c r ih =>
    have hFirst := digitValue?_of_isDigit (h c List.mem_cons_self)
    have hRest : ∀ d ∈ r, d.isDigit = true := fun d hd => h d (List.mem_cons_of_mem c hd)
    cases r with
    | nil => rw [digitValues?, hFirst]; rfl
    | cons e r =>
      have hMark : '_' ∉ e :: r := fun hIn => nomatch hRest '_' hIn
      rw [digitValues?_cons (List.cons_ne_nil e r) hMark, hFirst,
        ih hRest (List.cons_ne_nil e r)]
      rfl

theorem readDigits_asciiDigit (cs : List Char) :
    readDigits 10 (cs.map asciiDigit) = Nat.ofDigitChars 10 cs 0 := by
  rw [readDigits, List.foldl_map, Nat.ofDigitChars_eq_foldl]
  simp only [asciiDigit, Nat.mul_comm]

theorem isIntegerBlank_of_isDigit (h : c.isDigit = true) : isIntegerBlank c = false := by
  have hAll : ∀ n < 128, (Char.ofNat n).isDigit = true →
      isIntegerBlank (Char.ofNat n) = false := by decide
  exact @forall_ascii (fun c => c.isDigit = true → isIntegerBlank c = false) hAll c
    (toNat_of_isDigit h) h

end Digits

/-! ## Integers -/

/-- A text without blanks at its ends is read as it is. -/
theorem readIntegerChars_of_ends {c d : Char} {cs front : List Char}
    (hFront : cs = c :: front) (hBack : cs.getLast? = some d)
    (hFirst : isIntegerBlank c = false) (hLast : isIntegerBlank d = false) :
    readIntegerChars cs =
      (digitValues? (splitSign cs).2).elim (.error .malformed) fun ds =>
        if maxIntegerDigits < ds.length then .error (.tooLong ds.length)
        else .ok (if (splitSign cs).1 then -(readDigits 10 ds : Int) else readDigits 10 ds) := by
  have hStart : cs.dropWhile isIntegerBlank = cs := by
    rw [hFront, List.dropWhile_cons_of_neg (by simp [hFirst])]
  obtain ⟨back, hEnd⟩ := List.getLast?_eq_some_iff.1 hBack
  have hInner : (cs.reverse.dropWhile isIntegerBlank).reverse = cs := by
    rw [hEnd, List.reverse_append, List.reverse_singleton, List.singleton_append,
      List.dropWhile_cons_of_neg (by simp [hLast]), List.reverse_cons, List.reverse_reverse]
  simp only [readIntegerChars, hStart, hInner]
  cases digitValues? (splitSign cs).2 <;> rfl

theorem splitSign_of_isDigit {c : Char} {r : List Char} (h : c.isDigit = true) :
    splitSign (c :: r) = (false, c :: r) := by
  unfold splitSign
  split
  · rename_i hMinus
    cases hMinus
    contradiction
  · rename_i hPlus
    cases hPlus
    contradiction
  · rfl

/-- The digits of an integer behind its sign. -/
def signed (isNegative : Bool) (digits : List Char) : List Char :=
  if isNegative then '-' :: digits else digits

/-- Digits behind a sign are read as the number that they denote, if there are not too many. -/
theorem readIntegerChars_signed {digits : List Char} (hDigits : ∀ c ∈ digits, c.isDigit = true)
    (hSome : digits ≠ []) (hLength : digits.length ≤ maxIntegerDigits) (isNegative : Bool) :
    readIntegerChars (signed isNegative digits) =
      .ok (if isNegative then -(Nat.ofDigitChars 10 digits 0 : Int)
        else Nat.ofDigitChars 10 digits 0) := by
  obtain ⟨c, r, hFront⟩ := List.exists_cons_of_ne_nil hSome
  obtain ⟨d, hBack⟩ : ∃ d, digits.getLast? = some d := ⟨_, List.getLast?_eq_some_getLast hSome⟩
  have hFirst := hDigits c (hFront ▸ List.mem_cons_self)
  have hLast := isIntegerBlank_of_isDigit (hDigits d (List.mem_of_getLast? hBack))
  have hValues := digitValues?_of_isDigit hDigits hSome
  have hFits : ¬ maxIntegerDigits < (digits.map asciiDigit).length := by
    rw [List.length_map]
    exact Nat.not_lt.2 hLength
  cases isNegative with
  | false =>
    rw [signed, if_neg Bool.false_ne_true,
      readIntegerChars_of_ends hFront hBack (isIntegerBlank_of_isDigit hFirst) hLast]
    rw [hFront, splitSign_of_isDigit hFirst, ← hFront]
    simp only [hValues, Option.elim_some, if_neg hFits, readDigits_asciiDigit]
  | true =>
    have hEnd : ('-' :: digits).getLast? = some d := by
      rw [List.getLast?_cons, hBack, Option.getD_some]
    rw [signed, if_pos rfl, readIntegerChars_of_ends rfl hEnd (by decide) hLast]
    simp only [splitSign, hValues, Option.elim_some, if_neg hFits, readDigits_asciiDigit]

theorem toList_numeral (n : Int) :
    (numeral n).toList = signed (decide (n < 0)) (Nat.toDigits 10 n.natAbs) := by
  unfold numeral signed
  by_cases h : n < 0
  · simp [h]
  · simp [h]

theorem tenTo_eq_pow (k : Nat) : tenTo k = 10 ^ k := rfl

/-- The text of an integer is read as that integer. -/
theorem readInteger?_numeral {n : Int} (h : n.natAbs < numeralBound) :
    readInteger? (numeral n) = some n := by
  have hDigits : ∀ c ∈ Nat.toDigits 10 n.natAbs, c.isDigit = true :=
    fun c hc => Nat.isDigit_of_mem_toDigits (by decide) (by decide) hc
  have hSome : Nat.toDigits 10 n.natAbs ≠ [] :=
    List.ne_nil_of_length_pos Nat.length_toDigits_pos
  have hLength : (Nat.toDigits 10 n.natAbs).length ≤ maxIntegerDigits := by
    rw [numeralBound, tenTo_eq_pow] at h
    exact (Nat.length_toDigits_le_iff (by decide) (by decide)).2 h
  rw [readInteger?, readInteger, toList_numeral, readIntegerChars_signed hDigits hSome hLength,
    Nat.ofDigitChars_ten_toDigits]
  by_cases hNegative : n < 0
  · rw [decide_eq_true hNegative, if_pos rfl, Except.toOption]
    simp only [Option.some.injEq]
    omega
  · rw [decide_eq_false hNegative, if_neg Bool.false_ne_true, Except.toOption]
    simp only [Option.some.injEq]
    omega

end ViewAdapters.Text
