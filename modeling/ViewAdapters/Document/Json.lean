import ViewAdapters.Document.Value
import ViewAdapters.Text.Quoted

/-!
# JSON texts

Reports are written as JSON with two blanks of indentation for every level, in
ASCII: every other character is escaped by the UTF-16 units that stand for it.

* `Json.isAscii_escapePoint`: the escaped form of a code point is ASCII.
-/

namespace ViewAdapters

inductive Json where
  | null
  | bool (b : Bool)
  | number (n : Int)
  | text (s : String)
  | list (items : List Json)
  | object (fields : List (String × Json))
  deriving Repr

namespace Json

/-- A text or null. -/
def ofOption : Option String → Json
  | some s => .text s
  | none => .null

/-- The UTF-16 units of a code point. -/
def units16 (n : Nat) : List Nat :=
  if n < 0x10000 then [n]
  else [0xD800 + (n - 0x10000) / 0x400, 0xDC00 + (n - 0x10000) % 0x400]

/-- A character of a text between quotes. -/
def escape (c : Char) : List Char :=
  if c = '"' || c = '\\' then ['\\', c]
  else if c = '\n' then ['\\', 'n']
  else if c = '\r' then ['\\', 'r']
  else if c = '\t' then ['\\', 't']
  else if c = '\x08' then ['\\', 'b']
  else if c = '\x0c' then ['\\', 'f']
  else if ' ' ≤ c && c ≤ '~' then [c]
  else (units16 c.toNat).flatMap fun unit => '\\' :: 'u' :: Text.hexDigits 4 unit

/-- A code point of a text between quotes. -/
def escapePoint (n : Nat) : List Char :=
  if Text.isSurrogate n then '\\' :: 'u' :: Text.hexDigits 4 n else escape (Char.ofNat n)

def quote (s : String) : String :=
  String.ofList ('"' :: (Text.codePoints s.toList).flatMap escapePoint ++ ['"'])

/-- The start of a line at a level. -/
def lineStart (level : Nat) : String := "\n" ++ String.ofList (List.replicate (2 * level) ' ')

/-- Parts between brackets, each on a line of its own one level further in. -/
def enclose (opening closing : String) (level : Nat) (parts : List String) : String :=
  if parts.isEmpty then opening ++ closing
  else
    opening ++ lineStart (level + 1) ++ ("," ++ lineStart (level + 1)).intercalate parts ++
      lineStart level ++ closing

mutual

/-- The text of a value that stands at a level. -/
def textAt (level : Nat) : Json → String
  | .null => "null"
  | .bool b => if b then "true" else "false"
  | .number n => Text.numeral n
  | .text s => quote s
  | .list items => enclose "[" "]" level (itemTexts (level + 1) items)
  | .object fields => enclose "\x7b" "\x7d" level (fieldTexts (level + 1) fields)

def itemTexts (level : Nat) : List Json → List String
  | [] => []
  | item :: rest => textAt level item :: itemTexts level rest

def fieldTexts (level : Nat) : List (String × Json) → List String
  | [] => []
  | (key, value) :: rest => (quote key ++ ": " ++ textAt level value) :: fieldTexts level rest

end

/-- The text of a value and a line end. -/
def document (j : Json) : String := textAt 0 j ++ "\n"

def isAscii (c : Char) : Bool := c.toNat < 128

theorem isAscii_hexDigit {n : Nat} (h : n < 16) : isAscii (Text.hexDigit n) = true := by
  have hAll : ∀ m ∈ List.range 16, isAscii (Text.hexDigit m) = true := by decide
  exact hAll n (List.mem_range.2 h)

theorem isAscii_hexDigits {width n : Nat} {c : Char} (h : c ∈ Text.hexDigits width n) :
    isAscii c = true := by
  induction width generalizing n with
  | zero => simp [Text.hexDigits] at h
  | succ width ih =>
    rcases List.mem_append.1 h with h | h
    · exact ih h
    · rw [List.mem_singleton.1 h]
      exact isAscii_hexDigit (Nat.mod_lt _ (by decide))

theorem isAscii_unit {n : Nat} {d : Char} (h : d ∈ '\\' :: 'u' :: Text.hexDigits 4 n) :
    isAscii d = true := by
  rcases List.mem_cons.1 h with rfl | h
  · rfl
  · rcases List.mem_cons.1 h with rfl | h
    · rfl
    · exact isAscii_hexDigits h

theorem isAscii_escape {c d : Char} (h : d ∈ escape c) : isAscii d = true := by
  unfold escape at h
  split at h
  · rename_i hc
    simp only [Bool.or_eq_true, decide_eq_true_eq] at hc
    rcases hc with rfl | rfl <;>
      (simp only [List.mem_cons, List.not_mem_nil, or_false] at h; rcases h with rfl | rfl <;> rfl)
  iterate 5
    split at h
    · simp only [List.mem_cons, List.not_mem_nil, or_false] at h
      rcases h with rfl | rfl <;> rfl
  split at h
  · rename_i hc
    rw [List.mem_singleton.1 h]
    simp only [Bool.and_eq_true, decide_eq_true_eq] at hc
    have : c.toNat ≤ '~'.toNat := hc.2
    simp only [isAscii, decide_eq_true_eq]
    exact Nat.lt_of_le_of_lt this (by decide)
  · obtain ⟨unit, -, h⟩ := List.mem_flatMap.1 h
    exact isAscii_unit h

theorem isAscii_escapePoint {n : Nat} {d : Char} (h : d ∈ escapePoint n) : isAscii d = true := by
  unfold escapePoint at h
  split at h
  · exact isAscii_unit h
  · exact isAscii_escape h

end Json
end ViewAdapters
