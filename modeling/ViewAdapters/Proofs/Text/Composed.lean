import ViewAdapters.Proofs.Text.Brackets
import ViewAdapters.Proofs.Text.Words

/-!
# Composed texts

Texts that are composed of literal characters and of values. A property of texts is inherited if
texts have it that lack some of the structural characters, and composed texts whose literal
characters are enclosed have it if their values do.

* `inherited_noFeed`: to be one line is inherited.
* `inherited_wellBracketed`: to have nested brackets is inherited.
* `Inherited.append`, `Inherited.between`, `Inherited.intercalate`: common compositions.
-/

namespace ViewAdapters

open Text (IsNested awaitedAfter awaitedAfter_append)

/-! ## Structural characters -/

/-- The characters that a text is structured by: the line feed and the brackets. -/
def structuralChars : List Char := '\n' :: Text.bracketChars

/-- A text without some characters. -/
def Lacks (banned : List Char) (s : String) : Prop := ∀ c ∈ s.toList, c ∉ banned

instance (banned : List Char) : DecidablePred (Lacks banned) :=
  fun s => List.decidableBAll (· ∉ banned) s.toList

section Lacks

variable {banned : List Char} {s t : String}

theorem Lacks.append (hs : Lacks banned s) (ht : Lacks banned t) : Lacks banned (s ++ t) := by
  intro c hc
  rcases List.mem_append.1 (String.toList_append ▸ hc) with hc | hc
  · exact hs c hc
  · exact ht c hc

theorem Lacks.mono (hs : Lacks banned s) (h : t.toList ⊆ s.toList) : Lacks banned t :=
  fun c hc => hs c (h hc)

end Lacks

/-- Whether literal characters stay within their line and close the brackets that they open. -/
def isEnclosed (cs : List Char) : Bool := !cs.contains '\n' && decide (IsNested cs)

theorem isEnclosed_iff {cs : List Char} : isEnclosed cs = true ↔ '\n' ∉ cs ∧ IsNested cs := by
  simp [isEnclosed]

/-! ## Composed texts -/

/-- A text that is composed of literal characters, in this order, and of values with a property. -/
inductive Composed (P : String → Prop) : String → List Char → Prop
  | literal {cs : List Char} : Composed P (String.ofList cs) cs
  | value {s x : String} {cs : List Char} : Composed P s cs → P x → Composed P (s ++ x) cs
  | more {s : String} {cs ds : List Char} : Composed P s cs →
    Composed P (s ++ String.ofList ds) (cs ++ ds)

theorem Composed.next {P : String → Prop} {s x : String} {cs ds : List Char}
    (h : Composed P s cs) (hx : P x) : Composed P (s ++ x ++ String.ofList ds) (cs ++ ds) :=
  (h.value hx).more

/-- A property of texts that lack some structural characters, which composed texts inherit. -/
structure Inherited (banned : List Char) (P : String → Prop) : Prop where
  structural : ∀ c ∈ banned, c ∈ structuralChars
  of_lacks : ∀ s, Lacks banned s → P s
  of_composed : ∀ {s : String} {cs : List Char}, Composed P s cs → isEnclosed cs = true → P s

namespace Inherited

variable {banned : List Char} {P : String → Prop} {s t : String} {cs ds es : List Char}

theorem of_structural (hP : Inherited banned P) (h : Lacks structuralChars s) : P s :=
  hP.of_lacks s fun c hc hIn => h c hc (hP.structural c hIn)

theorem literal (hP : Inherited banned P) (h : isEnclosed cs = true) : P (String.ofList cs) :=
  hP.of_composed .literal h

theorem append (hP : Inherited banned P) (hs : P s) (ht : P t) : P (s ++ t) := by
  have hComposed : Composed P ("" ++ s ++ t) [] := .value (.value .literal hs) ht
  rw [String.empty_append] at hComposed
  exact hP.of_composed hComposed (by decide)

theorem prepend (hP : Inherited banned P) (hs : P s) (h : isEnclosed cs = true) :
    P (String.ofList cs ++ s) :=
  hP.of_composed (.value .literal hs) h

/-- The literal in front of a text can open brackets that the one behind it closes. -/
theorem between (hP : Inherited banned P) (hs : P s) (h : isEnclosed (ds ++ es) = true) :
    P (String.ofList ds ++ s ++ String.ofList es) :=
  hP.of_composed (.next .literal hs) h

theorem ite_append (hP : Inherited banned P) {b : Bool} (hs : P s) (h : isEnclosed cs = true) :
    P (if b then s ++ String.ofList cs else "") := by
  split
  · exact hP.append hs (hP.literal h)
  · exact hP.literal (by decide)

theorem intercalate (hP : Inherited banned P) {members : List String} (h : ∀ s ∈ members, P s) :
    P (", ".intercalate members) :=
  Text.intercalate_induction (hP.literal (by decide))
    (fun hs ht => hP.append (hP.append hs (hP.literal (by decide))) ht) h

/-- No structural character comes into a text by its letter case. -/
theorem isUncased (hP : Inherited banned P) {c : Char} (hc : c ∈ banned) :
    Text.isUncased c = true := by
  have hUncased : structuralChars.all Text.isUncased = true := by decide
  exact List.all_eq_true.1 hUncased c (hP.structural c hc)

end Inherited

/-! ## Texts of one line -/

/-- A text that is one line. -/
def NoFeed (s : String) : Prop := '\n' ∉ s.toList

theorem Composed.noFeed {s : String} {cs : List Char} (h : Composed NoFeed s cs)
    (hcs : '\n' ∉ cs) : NoFeed s := by
  induction h with
  | literal => rwa [NoFeed, String.toList_ofList]
  | value _ hx ih =>
    rw [NoFeed, String.toList_append, List.mem_append, not_or]
    exact ⟨ih hcs, hx⟩
  | more _ ih =>
    rw [List.mem_append, not_or] at hcs
    rw [NoFeed, String.toList_append, String.toList_ofList, List.mem_append, not_or]
    exact ⟨ih hcs.1, hcs.2⟩

theorem inherited_noFeed : Inherited ['\n'] NoFeed where
  structural _ hc := List.mem_singleton.1 hc ▸ List.mem_cons_self
  of_lacks _ h := fun hIn => h '\n' hIn List.mem_cons_self
  of_composed h hcs := h.noFeed (isEnclosed_iff.1 hcs).1

/-! ## Texts with nested brackets -/

/-- A text whose brackets are nested. -/
def WellBracketed (s : String) : Prop := IsNested s.toList

/-- Reading a composed text is reading its literal characters. -/
theorem Composed.awaitedAfter_eq {s : String} {cs : List Char} (h : Composed WellBracketed s cs)
    (awaited : List Char) : awaitedAfter awaited s.toList = awaitedAfter awaited cs := by
  induction h with
  | literal => rw [String.toList_ofList]
  | value _ hx ih =>
    rw [String.toList_append, awaitedAfter_append, ih]
    simp [IsNested.awaitedAfter_eq hx]
  | more _ ih =>
    rw [String.toList_append, String.toList_ofList, awaitedAfter_append, awaitedAfter_append, ih]

theorem inherited_wellBracketed : Inherited Text.bracketChars WellBracketed where
  structural _ hc := List.mem_cons_of_mem _ hc
  of_lacks _ h := .of_not_mem fun c hc hIn => h c hIn hc
  of_composed h hcs := by
    rw [WellBracketed, Text.isNested_iff, h.awaitedAfter_eq, ← Text.isNested_iff]
    exact (isEnclosed_iff.1 hcs).2

end ViewAdapters
