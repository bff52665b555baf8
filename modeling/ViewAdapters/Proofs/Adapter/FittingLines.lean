import ViewAdapters.Proofs.Text.Words

/-!
# Fitting lines

A line of an adapter is put together from literals and values, with a break on the side of a
literal where a value stands. So what its words are, and that it is one line and no import, is
settled by each literal and each value alone. A literal is a text of given characters, and what
is asked of it is checked on these.

* `Admits.head`, `Head.next`, `Head.append`, `Head.close`: the parts of a line from left to
  right.
* `Admits.join`, `Admits.before`, `Admits.behind`: texts that are put into lines.
* `FitsLine.notImport`: a line that fits is no import.
-/

namespace ViewAdapters

open Target (isWordPart words wordsFrom startsWithBreak endsWithBreak words_append
  endsWithBreak_append)

/-! ## Imports -/

/-- Whether a line is an import. -/
def isImport (line : String) : Bool := "import ".toList.isPrefixOf line.toList

theorem isImport_import (name : String) : isImport ("import " ++ name) = true := by
  rw [isImport, String.toList_append, List.isPrefixOf_iff_prefix]
  exact List.prefix_append _ _

/-- The names that the text of an adapter takes from imports of its own, with these imports. -/
def importedNames : List (String × String) := [
  ("MutableStateFlow", "kotlinx.coroutines.flow.MutableStateFlow"),
  ("StateFlow", "kotlinx.coroutines.flow.StateFlow"),
  ("asStateFlow", "kotlinx.coroutines.flow.asStateFlow"),
  ("drop", "kotlinx.coroutines.flow.drop"),
  ("launchIn", "kotlinx.coroutines.flow.launchIn"),
  ("onEach", "kotlinx.coroutines.flow.onEach"),
  ("viewModelScope", "androidx.lifecycle.viewModelScope"),
  ("launch", "kotlinx.coroutines.launch"),
  ("withContext", "kotlinx.coroutines.withContext"),
  ("Dispatchers", "kotlinx.coroutines.Dispatchers")]

/-- Whether a name is taken from an import. -/
def isImported (w : String) : Bool := importedNames.any (·.1 == w)

/-! ## Fitting texts -/

/-- A text within one line whose words are all known. -/
structure Fits (known : String → Prop) (s : String) : Prop where
  noLineFeed : '\n' ∉ s.toList
  known_of_mem : ∀ w ∈ words s, known w

/-- One line with known words that does not start as imports do. -/
structure FitsLine (known : String → Prop) (s : String) : Prop extends Fits known s where
  head_ne : s.toList.head? ≠ some 'i'

variable {known : String → Prop} {s t : String}

namespace Fits

theorem empty : Fits known "" := ⟨by decide, fun _ h => absurd h List.not_mem_nil⟩

theorem append (hs : Fits known s) (ht : Fits known t)
    (hBreak : endsWithBreak s = true ∨ startsWithBreak t = true) : Fits known (s ++ t) where
  noLineFeed := by
    rw [String.toList_append, List.mem_append, not_or]
    exact ⟨hs.noLineFeed, ht.noLineFeed⟩
  known_of_mem := by
    rw [words_append hBreak]
    exact List.forall_mem_append.2 ⟨hs.known_of_mem, ht.known_of_mem⟩

/-- What stands behind a break fits with the whole. -/
theorem of_suffix {front : List Char} {c : Char} (hs : Fits known s)
    (hSplit : s.toList = front ++ c :: t.toList) (hBreak : isWordPart c = false) :
    Fits known t where
  noLineFeed h := hs.noLineFeed (hSplit ▸ List.mem_append_right _ (List.mem_cons_of_mem _ h))
  known_of_mem w h := hs.known_of_mem w (Target.mem_words_of_suffix hSplit hBreak h)

end Fits

namespace FitsLine

theorem blank : FitsLine known "" := ⟨.empty, by decide⟩

theorem notImport (h : FitsLine known s) : isImport s = false := by
  refine Bool.eq_false_iff.2 fun hImport => h.head_ne ?_
  obtain ⟨rest, hRest⟩ := List.isPrefixOf_iff_prefix.1 hImport
  have hWord : "import ".toList = 'i' :: "mport ".toList := by decide
  rw [← hRest, hWord]
  rfl

theorem filter_isImport {lines : List String} (h : ∀ line ∈ lines, FitsLine known line) :
    lines.filter isImport = [] :=
  List.filter_eq_nil_iff.2 fun line hLine => Bool.not_eq_true _ ▸ (h line hLine).notImport

end FitsLine

/-! ## Literals -/

/-- Every word is known that no import supplies, and so is every word of `allowed`. -/
def Admits (known : String → Prop) (allowed : List String) : Prop :=
  ∀ w, isImported w = false ∨ w ∈ allowed → known w

/-- Whether a literal stays within its line and takes no name from imports but those allowed. -/
def isLiteral (allowed : List String) (cs : List Char) : Bool :=
  !cs.contains '\n' && (wordsFrom [] cs).all fun w =>
    !isImported (String.ofList w) || allowed.contains (String.ofList w)

/-- Whether characters start with one that is in no word. -/
def opensWithBreak (cs : List Char) : Bool := cs.head?.any (!isWordPart ·)

/-- Whether characters end with one that is in no word. -/
def closesWithBreak (cs : List Char) : Bool := cs.getLast?.any (!isWordPart ·)

/-- Whether a literal can stand at the start of a line that is no import, and a value behind it. -/
def isOpening (allowed : List String) (cs : List Char) : Bool :=
  isLiteral allowed cs && closesWithBreak cs && cs.head?.any (· != 'i')

/-- Whether a literal can stand between two values. -/
def isBetween (allowed : List String) (cs : List Char) : Bool :=
  isLiteral allowed cs && opensWithBreak cs && closesWithBreak cs

/-- Whether a literal can stand behind a value. -/
def isClosing (allowed : List String) (cs : List Char) : Bool :=
  isLiteral allowed cs && opensWithBreak cs

/-- Whether a literal can stand in front of a value. -/
def isLeading (allowed : List String) (cs : List Char) : Bool :=
  isLiteral allowed cs && closesWithBreak cs

/-- Whether a value between two literals keeps its words. -/
def encloses (ds cs : List Char) : Bool := closesWithBreak ds && opensWithBreak cs

section Literals

variable {cs : List Char} {allowed : List String}

theorem startsWithBreak_ofList (h : opensWithBreak cs = true) :
    startsWithBreak (String.ofList cs) = true := by
  rwa [startsWithBreak, String.toList_ofList]

theorem endsWithBreak_ofList (h : closesWithBreak cs = true) :
    endsWithBreak (String.ofList cs) = true := by
  rwa [endsWithBreak, String.toList_ofList]

namespace Admits

/-- Words that no import supplies are known anyway. -/
theorem plain (hKnown : Admits known allowed) : Admits known [] :=
  fun w hw => hKnown w (.inl (hw.resolve_right List.not_mem_nil))

theorem known_of_ne (hKnown : Admits known allowed) {w : String}
    (h : ∀ n ∈ importedNames, n.1 ≠ w) : known w := by
  refine hKnown w (.inl (List.any_eq_false.2 fun n hn => ?_))
  simpa using h n hn

theorem fits (hKnown : Admits known allowed)
    (h : isLiteral allowed cs = true) : Fits known (String.ofList cs) := by
  rw [isLiteral, Bool.and_eq_true, List.all_eq_true] at h
  refine ⟨by simpa using h.1, fun w hw => hKnown w ?_⟩
  rw [Target.mem_words, String.toList_ofList] at hw
  simpa using h.2 w.toList hw

theorem join (hKnown : Admits known allowed) (hs : Fits known s) (ht : Fits known t)
    (h : isBetween allowed cs = true) :
    Fits known (s ++ String.ofList cs ++ t) := by
  simp only [isBetween, Bool.and_eq_true] at h
  have hOpened := hs.append (hKnown.fits h.1.1) (.inr (startsWithBreak_ofList h.1.2))
  exact hOpened.append ht (.inl (endsWithBreak_append (endsWithBreak_ofList h.2)))

theorem behind (hKnown : Admits known allowed) (hs : Fits known s)
    (h : isClosing allowed cs = true) :
    Fits known (s ++ String.ofList cs) := by
  rw [isClosing, Bool.and_eq_true] at h
  exact hs.append (hKnown.fits h.1) (.inr (startsWithBreak_ofList h.2))

theorem before (hKnown : Admits known allowed) (hs : Fits known s)
    (h : isLeading allowed cs = true) :
    Fits known (String.ofList cs ++ s) := by
  rw [isLeading, Bool.and_eq_true] at h
  exact (hKnown.fits h.1).append hs (.inl (endsWithBreak_ofList h.2))

end Admits

/-! ## Lines -/

/-- The start of a line up to a break, in a part of the text that takes the names `allowed` from
imports. -/
structure Head (known : String → Prop) (allowed : List String) (s : String) : Prop
    extends FitsLine known s where
  admits : Admits known allowed
  ends : endsWithBreak s = true

theorem Admits.head (hKnown : Admits known allowed)
    (h : isOpening allowed cs = true) :
    Head known allowed (String.ofList cs) := by
  simp only [isOpening, Bool.and_eq_true] at h
  refine ⟨⟨hKnown.fits h.1.1, ?_⟩, hKnown, endsWithBreak_ofList h.1.2⟩
  rw [String.toList_ofList]
  intro hHead
  simp [hHead] at h

/-- A literal as a line of its own. -/
theorem Admits.line (hKnown : Admits known allowed) (h : isOpening allowed cs = true) :
    FitsLine known (String.ofList cs) :=
  (hKnown.head h).toFitsLine

namespace Head

variable {x : String}

/-- What follows a break does not change how the line starts. -/
theorem append (h : Head known allowed s) (ht : Fits known t) : FitsLine known (s ++ t) where
  toFits := h.toFits.append ht (.inl h.ends)
  head_ne := by
    have hNot := h.head_ne
    have hEnds := h.ends
    rw [String.toList_append]
    cases hChars : s.toList with
    | nil => simp [endsWithBreak, hChars] at hEnds
    | cons c r => simpa [hChars] using hNot

theorem close (h : Head known allowed s) (hx : Fits known x)
    (hLiteral : isClosing allowed cs = true) :
    FitsLine known (s ++ x ++ String.ofList cs) := by
  rw [String.append_assoc]
  exact h.append (h.admits.behind hx hLiteral)

theorem next (h : Head known allowed s) (hx : Fits known x)
    (hLiteral : isBetween allowed cs = true) :
    Head known allowed (s ++ x ++ String.ofList cs) := by
  simp only [isBetween, Bool.and_eq_true] at hLiteral
  refine ⟨h.close hx (Bool.and_eq_true _ _ ▸ hLiteral.1), h.admits, ?_⟩
  exact endsWithBreak_append (endsWithBreak_ofList hLiteral.2)

end Head

/-! ## Words of lines -/

section Words

variable {x w : String} {ds ws : List Char}

theorem mem_words_literal (h : (wordsFrom [] cs).contains ws = true) :
    String.ofList ws ∈ words (String.ofList cs) := by
  rw [Target.mem_words, String.toList_ofList, String.toList_ofList]
  exact List.contains_iff_mem.1 h

/-- The first literal of a line, a value and the literal behind it keep their words. -/
theorem mem_words_first (hEncloses : encloses ds cs = true)
    (h : w ∈ words (String.ofList ds) ∨ w ∈ words x ∨ w ∈ words (String.ofList cs)) :
    w ∈ words (String.ofList ds ++ x ++ String.ofList cs) := by
  rw [encloses, Bool.and_eq_true] at hEncloses
  rwa [words_append (.inr (startsWithBreak_ofList hEncloses.2)),
    words_append (.inl (endsWithBreak_ofList hEncloses.1)), List.mem_append, List.mem_append,
    or_assoc]

/-- The same further on in a line. -/
theorem mem_words_next (hEncloses : encloses ds cs = true)
    (h : w ∈ words (s ++ String.ofList ds) ∨ w ∈ words x ∨ w ∈ words (String.ofList cs)) :
    w ∈ words (s ++ String.ofList ds ++ x ++ String.ofList cs) := by
  rw [encloses, Bool.and_eq_true] at hEncloses
  rwa [words_append (.inr (startsWithBreak_ofList hEncloses.2)),
    words_append (.inl (endsWithBreak_append (endsWithBreak_ofList hEncloses.1))),
    List.mem_append, List.mem_append, or_assoc]

end Words
end Literals
end ViewAdapters
