import Mathlib.Data.List.Basic
import Mathlib.Data.List.TakeWhile
import ViewAdapters.Proofs.Text.Identifiers
import ViewAdapters.Proofs.Text.Trimming

/-!
# Marks of lines

A line that says something of a name is known by a mark: the literal that its first word character
follows, behind the indentation, and the literal behind the name. What marks find in a line is
settled by its literals, whatever stands where the values are.

* `Mark.mention?`, `mentions`: what marks find in a line.
* `Mentions.start`, `Mentions.more`: a line from its first literal on, whose name is a word.
* `Unmarked.literal`, `Unmarked.more`, `Unmarked.indent`: a line that no mark is found in.
-/

namespace ViewAdapters

open Target (isWordPart)
open Text (trimStartChars trimStartChars_append isBlank)

/-- A kind of lines with the literals around the name in them. -/
structure Mark (κ : Type) where
  kind : κ
  front : String
  back : String

/-- The name in a line of a kind, and what follows the literal behind it. -/
structure Mention (κ : Type) where
  kind : κ
  name : String
  rest : String
  deriving DecidableEq

/-- The word behind a literal and what follows the literal behind it. -/
def wordBetween? (front back cs : List Char) : Option (List Char × List Char) := do
  let inside ← cs.dropPrefix? front
  let rest ← (inside.dropWhile isWordPart).dropPrefix? back
  return (inside.takeWhile isWordPart, rest)

variable {κ : Type}

def Mark.mention? (m : Mark κ) (line : String) : Option (Mention κ) :=
  (wordBetween? m.front.toList m.back.toList (trimStartChars line.toList)).map fun r =>
    ⟨m.kind, String.ofList r.1, String.ofList r.2⟩

def mentions (marks : List (Mark κ)) (line : String) : List (Mention κ) :=
  marks.filterMap (·.mention? line)

/-! ## Literals that differ -/

/-- Whether characters differ at some place, so that neither are the start of the others. -/
def clashes : List Char → List Char → Bool
  | c :: cs, d :: ds => c != d || clashes cs ds
  | _, _ => false

section Clashes

variable {cs ds r r' : List Char}

theorem clashes_append (h : clashes cs ds = true) : clashes (cs ++ r) (ds ++ r') = true := by
  induction cs generalizing ds with
  | nil => simp [clashes] at h
  | cons c cs ih =>
    cases ds with
    | nil => simp [clashes] at h
    | cons d ds =>
      simp only [clashes, Bool.or_eq_true] at h
      simp only [List.cons_append, clashes, Bool.or_eq_true]
      exact h.imp_right ih

theorem ne_of_clashes (h : clashes cs ds = true) : cs ≠ ds := by
  rintro rfl
  induction cs with
  | nil => simp [clashes] at h
  | cons c cs ih =>
    simp only [clashes, bne_self_eq_false, Bool.false_or] at h
    exact ih h

theorem dropPrefix?_append (cs r : List Char) : (cs ++ r).dropPrefix? cs = some r :=
  List.dropPrefix?_append_of_beq r (beq_self_eq_true cs)

theorem dropPrefix?_eq_none_of_ne (h : ∀ r, cs ≠ ds ++ r) : cs.dropPrefix? ds = none := by
  cases hDrop : cs.dropPrefix? ds with
  | none => rfl
  | some r =>
    obtain ⟨ds', hSplit, hSame⟩ := List.dropPrefix?_eq_some_iff.1 hDrop
    exact absurd (beq_iff_eq.1 hSame ▸ hSplit) (h r)

theorem dropPrefix?_of_clashes (h : clashes cs ds = true) : (cs ++ r).dropPrefix? ds = none :=
  dropPrefix?_eq_none_of_ne fun _ => ne_of_clashes (clashes_append h)

theorem isPrefixOf_append (h : cs.isPrefixOf ds = true) (r : List Char) :
    cs.isPrefixOf (ds ++ r) = true :=
  List.isPrefixOf_iff_prefix.2 ((List.isPrefixOf_iff_prefix.1 h).trans (List.prefix_append _ _))

theorem append_ne_of_clashes {s t u : String}
    (h : clashes t.toList.reverse u.toList.reverse = true) : s ++ t ≠ u := by
  rintro rfl
  rw [String.toList_append, List.reverse_append] at h
  have hNe := ne_of_clashes (@clashes_append _ _ s.toList.reverse [] h)
  simp at hNe

end Clashes

/-! ## Words and breaks -/

theorem takeWhile_word {name t r : List Char} (hName : name.all isWordPart = true)
    (hBreak : t.head?.any (!isWordPart ·) = true) :
    (name ++ (t ++ r)).takeWhile isWordPart = name ∧
      (name ++ (t ++ r)).dropWhile isWordPart = t ++ r := by
  rw [List.all_eq_true] at hName
  cases t with
  | nil => simp at hBreak
  | cons c t =>
    have hc : isWordPart c = false := by simpa using hBreak
    rw [List.takeWhile_append_of_pos hName, List.dropWhile_append_of_pos hName]
    simp [hc]

section Literals

variable {front back lead inside t name r : List Char}

theorem wordBetween?_front (hName : name.all isWordPart = true)
    (hBreak : t.head?.any (!isWordPart ·) = true) :
    wordBetween? front back (front ++ (name ++ (t ++ r))) =
      ((t ++ r).dropPrefix? back).map fun s => (name, s) := by
  obtain ⟨hTake, hDrop⟩ := takeWhile_word (r := r) hName hBreak
  simp only [wordBetween?, dropPrefix?_append, Option.bind_eq_bind, Option.bind_some, hTake, hDrop,
    Option.map_eq_bind]
  rfl

/-- A literal that goes on behind the one in the line has its word there end at another
character. -/
theorem wordBetween?_of_longer (hName : name.all isWordPart = true)
    (hBreak : t.head?.any (!isWordPart ·) = true) {c d : Char}
    (hInside : (inside.dropWhile isWordPart).head? = some c) (ht : t.head? = some d) (hNe : c ≠ d) :
    wordBetween? (lead ++ inside) back (lead ++ (name ++ (t ++ r))) = none := by
  have hNot : ∀ r', lead ++ (name ++ (t ++ r)) ≠ lead ++ inside ++ r' := by
    intro r' hSame
    rw [List.append_assoc, List.append_right_inj] at hSame
    have hDrop := congrArg (List.dropWhile isWordPart) hSame
    obtain ⟨rest, hRest⟩ := List.head?_eq_some_iff.1 hInside
    obtain ⟨rest', rfl⟩ := List.head?_eq_some_iff.1 ht
    rw [(takeWhile_word hName hBreak).2, List.dropWhile_append, hRest] at hDrop
    exact hNe (List.cons.inj hDrop).1.symm
  simp [wordBetween?, dropPrefix?_eq_none_of_ne hNot]

end Literals

/-- What the literals of a line say of a mark: `some none` if it is not found, `some (some r)` if it
is and `r` starts what follows, whatever word stands between `lead` and `t`. -/
def found? (front back lead t : List Char) : Option (Option (List Char)) :=
  if clashes lead front then some none
  else match front.dropPrefix? lead with
    | none => none
    | some [] => if clashes t back then some none else (t.dropPrefix? back).map some
    | some inside =>
      match (inside.dropWhile isWordPart).head?, t.head? with
      | some c, some d => if c = d then none else some none
      | _, _ => none

theorem wordBetween?_of_found? {front back lead t name r : List Char} {o : Option (List Char)}
    (h : found? front back lead t = some o) (hName : name.all isWordPart = true)
    (hBreak : t.head?.any (!isWordPart ·) = true) :
    wordBetween? front back (lead ++ (name ++ (t ++ r))) = o.map fun s => (name, s ++ r) := by
  unfold found? at h
  split at h
  · rename_i hClash
    cases h
    simp [wordBetween?, dropPrefix?_of_clashes hClash]
  · split at h
    · contradiction
    · rename_i hFront
      obtain ⟨lead', hSplit, hSame⟩ := List.dropPrefix?_eq_some_iff.1 hFront
      rw [List.append_nil, beq_iff_eq.1 hSame] at hSplit
      rw [hSplit, wordBetween?_front hName hBreak]
      split at h
      · rename_i hClash
        cases h
        rw [dropPrefix?_of_clashes hClash]
        rfl
      · obtain ⟨s, hBack, rfl⟩ := Option.map_eq_some_iff.1 h
        obtain ⟨back', hBackSplit, hBackSame⟩ := List.dropPrefix?_eq_some_iff.1 hBack
        rw [hBackSplit, beq_iff_eq.1 hBackSame, List.append_assoc, dropPrefix?_append]
        rfl
    · rename_i inside _ hFront
      obtain ⟨lead', rfl, hSame⟩ := List.dropPrefix?_eq_some_iff.1 hFront
      rw [beq_iff_eq.1 hSame]
      split at h
      · rename_i c d hInside ht
        split at h
        · contradiction
        · rename_i hNe
          cases h
          exact wordBetween?_of_longer hName hBreak hInside ht hNe
      · contradiction

/-! ## Lines with a name -/

/-- The kinds of the marks that the literals of a line show, each with the start of what follows. -/
def hits? : (marks : List (Mark κ)) → (lead t : List Char) → Option (List (κ × List Char))
  | [], _, _ => some []
  | m :: marks, lead, t =>
    match found? m.front.toList m.back.toList lead t, hits? marks lead t with
    | some none, some hits => some hits
    | some (some r), some hits => some ((m.kind, r) :: hits)
    | _, _ => none

/-- The same for a line with indentation, whose literal `t` ends the name. -/
def lineHits? (marks : List (Mark κ)) (cs t : List Char) : Option (List (κ × List Char)) :=
  if (trimStartChars cs).isEmpty || !t.head?.any (!isWordPart ·) then none
  else hits? marks (trimStartChars cs) t

/-- What is found in a line that starts with a text: these kinds, all with one name. -/
def Mentions (marks : List (Mark κ)) (s name : String) (hits : List (κ × List Char)) : Prop :=
  ∀ more, mentions marks (s ++ more) =
    hits.map fun hit => ⟨hit.1, name, String.ofList hit.2 ++ more⟩

theorem mentions_of_hits? {marks : List (Mark κ)} {lead t name r : List Char}
    {hits : List (κ × List Char)} (h : hits? marks lead t = some hits)
    (hName : name.all isWordPart = true) (hBreak : t.head?.any (!isWordPart ·) = true) :
    (marks.filterMap fun m =>
      (wordBetween? m.front.toList m.back.toList (lead ++ (name ++ (t ++ r)))).map fun w =>
        (⟨m.kind, String.ofList w.1, String.ofList w.2⟩ : Mention κ)) =
      hits.map fun hit => ⟨hit.1, String.ofList name, String.ofList (hit.2 ++ r)⟩ := by
  induction marks generalizing hits with
  | nil =>
    cases h
    rfl
  | cons m marks ih =>
    unfold hits? at h
    split at h
    · rename_i hFound hHits
      cases h
      rw [List.filterMap_cons, wordBetween?_of_found? hFound hName hBreak]
      exact ih hHits
    · rename_i hFound hHits
      cases h
      rw [List.filterMap_cons, wordBetween?_of_found? hFound hName hBreak]
      exact congrArg _ (ih hHits)
    · contradiction

theorem Mentions.start {marks : List (Mark κ)} {cs t : List Char} {name : String}
    {hits : List (κ × List Char)} (hName : IsWord name) (h : lineHits? marks cs t = some hits) :
    Mentions marks (String.ofList cs ++ name ++ String.ofList t) name hits := by
  intro more
  unfold lineHits? at h
  split at h
  · contradiction
  · rename_i hLiterals
    simp only [Bool.or_eq_true, List.isEmpty_iff, Bool.not_eq_true', not_or,
      Bool.not_eq_false] at hLiterals
    have hChars : (String.ofList cs ++ name ++ String.ofList t ++ more).toList =
        cs ++ (name.toList ++ (t ++ more.toList)) := by
      simp [String.toList_append]
    have hRead := mentions_of_hits? (r := more.toList) h hName hLiterals.2
    simp only [mentions, Mark.mention?, hChars, trimStartChars_append hLiterals.1, hRead]
    simp [String.ofList_append]

/-- The same with a literal in front of the first one. -/
theorem Mentions.startBehind {marks : List (Mark κ)} {cs ds t : List Char} {name : String}
    {hits : List (κ × List Char)} (hName : IsWord name)
    (h : lineHits? marks (cs ++ ds) t = some hits) :
    Mentions marks (String.ofList cs ++ (String.ofList ds ++ name) ++ String.ofList t)
      name hits := by
  have hSame : String.ofList cs ++ (String.ofList ds ++ name) =
      String.ofList (cs ++ ds) ++ name := by
    rw [String.ofList_append, String.append_assoc]
  rw [hSame]
  exact .start hName h

theorem Mentions.mentions_eq {marks : List (Mark κ)} {s name : String}
    {hits : List (κ × List Char)} (h : Mentions marks s name hits) :
    mentions marks s = hits.map fun hit => ⟨hit.1, name, String.ofList hit.2⟩ := by
  simpa using h ""

/-! ## Lines without a mark -/

theorem Mark.mention?_of_clashes {m : Mark κ} {cs : List Char}
    (h : clashes (trimStartChars cs) m.front.toList = true) (more : String) :
    m.mention? (String.ofList cs ++ more) = none := by
  have hLead : trimStartChars cs ≠ [] := by
    intro hNil
    rw [hNil] at h
    contradiction
  rw [Mark.mention?, String.toList_append, String.toList_ofList, trimStartChars_append hLead,
    wordBetween?, dropPrefix?_of_clashes h]
  rfl

/-- The kinds of what is found in a line are those of the marks whose first literals do not differ
from the line's. -/
theorem kind_of_mem_mentions {marks : List (Mark κ)} {cs : List Char} {P : κ → Bool}
    (h : ∀ m ∈ marks, clashes (trimStartChars cs) m.front.toList = true ∨ P m.kind = true)
    {s : String} {found : Mention κ} (hFound : found ∈ mentions marks (String.ofList cs ++ s)) :
    P found.kind = true := by
  obtain ⟨m, hm, hMention⟩ := List.mem_filterMap.1 hFound
  rcases h m hm with hClash | hKind
  · rw [Mark.mention?_of_clashes hClash] at hMention
    contradiction
  · obtain ⟨r, -, rfl⟩ := Option.map_eq_some_iff.1 hMention
    exact hKind

/-- No mark is found in a line that starts with a text. -/
def Unmarked (marks : List (Mark κ)) (s : String) : Prop := ∀ more, mentions marks (s ++ more) = []

/-- Whether a literal differs from the first ones of all marks. -/
def isUnmarked (marks : List (Mark κ)) (cs : List Char) : Bool :=
  marks.all fun m => clashes (trimStartChars cs) m.front.toList

namespace Unmarked

variable {marks : List (Mark κ)} {s : String} {cs : List Char}

theorem mentions_eq (h : Unmarked marks s) : mentions marks s = [] := by
  simpa using h ""

theorem literal (h : isUnmarked marks cs = true) : Unmarked marks (String.ofList cs) := by
  intro more
  exact List.filterMap_eq_nil_iff.2 fun m hm =>
    Mark.mention?_of_clashes (List.all_eq_true.1 h m hm) more

theorem more (h : Unmarked marks s) (t : String) : Unmarked marks (s ++ t) := by
  intro rest
  rw [String.append_assoc]
  exact h (t ++ rest)

theorem indent (h : Unmarked marks s) (hBlank : cs.all isBlank = true) :
    Unmarked marks (String.ofList cs ++ s) := by
  intro rest
  have hTrim : trimStartChars (String.ofList cs ++ s ++ rest).toList =
      trimStartChars (s ++ rest).toList := by
    rw [String.append_assoc, String.toList_append, String.toList_ofList, trimStartChars,
      List.dropWhile_append_of_pos (List.all_eq_true.1 hBlank)]
    rfl
  have hRest := h rest
  simp only [mentions, Mark.mention?] at hRest ⊢
  rw [hTrim]
  exact hRest

theorem of_mentions {name : String} (h : Mentions marks s name []) : Unmarked marks s := h

end Unmarked

/-- Blanks and a word are no line of a kind whose first literal has a break. -/
theorem mentions_word {marks : List (Mark κ)}
    (hMarks : marks.all (fun m => m.front.toList.any (!isWordPart ·)) = true) {cs : List Char}
    (hBlank : cs.all isBlank = true) {name : String} (hName : IsWord name) :
    mentions marks (String.ofList cs ++ name) = [] := by
  refine List.filterMap_eq_nil_iff.2 fun m hm => ?_
  have hParts : ∀ c ∈ trimStartChars (String.ofList cs ++ name).toList, isWordPart c = true := by
    intro c hc
    rw [String.toList_append, String.toList_ofList, trimStartChars,
      List.dropWhile_append_of_pos (List.all_eq_true.1 hBlank)] at hc
    exact List.all_eq_true.1 hName c ((List.dropWhile_sublist _).subset hc)
  obtain ⟨c, hc, hBreak⟩ := List.any_eq_true.1 (List.all_eq_true.1 hMarks m hm)
  have hNone : (trimStartChars (String.ofList cs ++ name).toList).dropPrefix? m.front.toList =
      none := dropPrefix?_eq_none_of_ne fun r hSplit => by
    have hPart := hParts c (hSplit ▸ List.mem_append_left r hc)
    simp [hPart] at hBreak
  rw [Mark.mention?, wordBetween?, hNone]
  rfl

end ViewAdapters
