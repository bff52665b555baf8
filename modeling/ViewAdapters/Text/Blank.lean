/-!
# Blanks

White space in every script, and the removal of it from both ends of a text.

* `trimChars_of_forall_blank`: a text of blanks alone trims to nothing.
-/

namespace ViewAdapters.Text

/-- White space: the ASCII blanks, the four information separators, and the
spaces and line ends of Unicode. -/
def isBlank (c : Char) : Bool :=
  let n := c.toNat
  (9 ≤ n && n ≤ 13) || (28 ≤ n && n ≤ 32) || n == 0x85 || n == 0xA0 || n == 0x1680 ||
    (0x2000 ≤ n && n ≤ 0x200A) || n == 0x2028 || n == 0x2029 || n == 0x202F ||
    n == 0x205F || n == 0x3000

def trimStartChars (cs : List Char) : List Char := cs.dropWhile isBlank

def trimEndChars (cs : List Char) : List Char := (cs.reverse.dropWhile isBlank).reverse

def trimChars (cs : List Char) : List Char := trimEndChars (trimStartChars cs)

/-- The text without the blanks at its ends. -/
def trim (s : String) : String := String.ofList (trimChars s.toList)

theorem trimStartChars_of_forall_blank {cs : List Char} (h : ∀ c ∈ cs, isBlank c) :
    trimStartChars cs = [] := by
  induction cs with
  | nil => rfl
  | cons c r ih =>
    rw [trimStartChars, List.dropWhile_cons_of_pos (h c (by simp))]
    exact ih fun d hd => h d (by simp [hd])

theorem trimChars_of_forall_blank {cs : List Char} (h : ∀ c ∈ cs, isBlank c) :
    trimChars cs = [] := by
  rw [trimChars, trimStartChars_of_forall_blank h]; rfl

/-- Nothing is trimmed from a text whose first character is no blank. -/
theorem trimStartChars_cons {c : Char} {r : List Char} (h : isBlank c = false) :
    trimStartChars (c :: r) = c :: r := by
  rw [trimStartChars, List.dropWhile_cons_of_neg (by simp [h])]

theorem trimEndChars_concat {c : Char} {r : List Char} (h : isBlank c = false) :
    trimEndChars (r ++ [c]) = r ++ [c] := by
  simp [trimEndChars, List.dropWhile_cons_of_neg, h]

theorem trimStartChars_idem (cs : List Char) :
    trimStartChars (trimStartChars cs) = trimStartChars cs := by
  induction cs with
  | nil => rfl
  | cons c r ih =>
    by_cases hc : isBlank c
    · simpa only [trimStartChars, List.dropWhile_cons_of_pos hc] using ih
    · rw [trimStartChars_cons (by simpa using hc), trimStartChars_cons (by simpa using hc)]

end ViewAdapters.Text
