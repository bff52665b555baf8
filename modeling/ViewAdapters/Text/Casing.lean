import ViewAdapters.Text.CasedChars
import ViewAdapters.Text.LowerCase
import ViewAdapters.Text.UpperCase

/-!
# Letter case of whole texts

* `lower_ascii`: an ASCII text becomes small letter by letter.
* `toList_decapitalize_cons`, `toList_capitalize_cons`: only the first character changes.
-/

namespace ViewAdapters.Text

/-- A capital sigma between `before` (nearest first) and `after` ends a word: a
cased character stands before it and none after it. -/
def endsWord (before after : List Char) : Bool :=
  (match before.dropWhile isCaseIgnorable with
    | [] => false
    | c :: _ => isCased c) &&
  (match after.dropWhile isCaseIgnorable with
    | [] => true
    | c :: _ => !isCased c)

/-- The small form of a text that stands after `before`, nearest character first. -/
def lowerAfter (before : List Char) : List Char → List Char
  | [] => []
  | c :: r =>
    (if c = 'Σ' then [if endsWord before r then 'ς' else 'σ'] else lowerChars c) ++
      lowerAfter (c :: before) r

/-- The text in small letters; a sigma at the end of a word takes its final form. -/
def lower (s : String) : String := String.ofList (lowerAfter [] s.toList)

/-- The text with its first character in its small form. -/
def decapitalize (s : String) : String :=
  match s.toList with
  | [] => s
  | c :: r => String.ofList (lowerChars c ++ r)

/-- The text with its first character in its capital form. -/
def capitalize (s : String) : String :=
  match s.toList with
  | [] => s
  | c :: r => String.ofList (upperChars c ++ r)

theorem lowerAfter_ascii (before : List Char) {cs : List Char} (h : ∀ c ∈ cs, c.toNat < 128) :
    lowerAfter before cs = cs.map Char.toLower := by
  induction cs generalizing before with
  | nil => rfl
  | cons c r ih =>
    have hc : c.toNat < 128 := h c (by simp)
    have hs : c ≠ 'Σ' := by
      rintro rfl
      revert hc
      decide
    simp [lowerAfter, hs, lowerChars_ascii hc, ih (c :: before) fun d hd => h d (by simp [hd])]

theorem lower_ascii {s : String} (h : ∀ c ∈ s.toList, c.toNat < 128) :
    lower s = String.ofList (s.toList.map Char.toLower) := by
  rw [lower, lowerAfter_ascii [] h]

theorem toList_decapitalize_cons {s : String} {c : Char} {r : List Char}
    (h : s.toList = c :: r) : (decapitalize s).toList = lowerChars c ++ r := by
  simp [decapitalize, h]

theorem toList_capitalize_cons {s : String} {c : Char} {r : List Char}
    (h : s.toList = c :: r) : (capitalize s).toList = upperChars c ++ r := by
  simp [capitalize, h]

end ViewAdapters.Text
