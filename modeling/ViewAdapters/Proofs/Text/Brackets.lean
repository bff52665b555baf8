import Mathlib.Data.List.Basic

/-!
# Brackets

Round, square and curly brackets are nested in a text if each of them is closed by one of its
kind, and what stands between the two is nested as well. A scan that keeps the brackets still to
be closed tells whether they are.

* `Text.isNested_iff`: brackets are nested exactly if the scan ends with none to be closed.
* `Text.IsNested.awaitedAfter_eq`: nested characters leave open what was open before them.
-/

namespace ViewAdapters.Text

/-- The bracket that closes an opening one. -/
def closing? : Char → Option Char
  | '(' => some ')'
  | '[' => some ']'
  | '\x7b' => some '\x7d'
  | _ => none

def bracketChars : List Char := ['(', ')', '[', ']', '\x7b', '\x7d']

inductive IsNested : List Char → Prop
  | nil : IsNested []
  | plain {c : Char} {r : List Char} : c ∉ bracketChars → IsNested r → IsNested (c :: r)
  | pair {c d : Char} {inner r : List Char} : closing? c = some d → IsNested inner → IsNested r →
    IsNested (c :: (inner ++ d :: r))

/-- The brackets that are to be closed after one more character, innermost first. -/
def awaitedNext (awaited : List Char) (c : Char) : Option (List Char) :=
  match closing? c with
  | some d => some (d :: awaited)
  | none =>
    if c ∈ bracketChars then
      if awaited.head? = some c then some awaited.tail else none
    else some awaited

/-- The brackets that are to be closed after characters. -/
def awaitedAfter (awaited cs : List Char) : Option (List Char) := cs.foldlM awaitedNext awaited

theorem awaitedAfter_cons (awaited : List Char) (c : Char) (r : List Char) :
    awaitedAfter awaited (c :: r) = (awaitedNext awaited c).bind (awaitedAfter · r) :=
  List.foldlM_cons

theorem awaitedAfter_append (awaited cs ds : List Char) :
    awaitedAfter awaited (cs ++ ds) = (awaitedAfter awaited cs).bind (awaitedAfter · ds) :=
  List.foldlM_append

/-! ## One character -/

section Step

variable {c d : Char} {awaited awaited' : List Char}

theorem awaitedNext_opening (h : closing? c = some d) :
    awaitedNext awaited c = some (d :: awaited) := by
  simp [awaitedNext, h]

/-- The brackets that close others open none. -/
theorem closing?_closing (h : closing? c = some d) : closing? d = none ∧ d ∈ bracketChars := by
  unfold closing? at h
  split at h <;> first | contradiction | (cases h; decide)

theorem awaitedNext_closing (h : closing? c = some d) :
    awaitedNext (d :: awaited) d = some awaited := by
  obtain ⟨hNone, hIn⟩ := closing?_closing h
  simp [awaitedNext, hNone, hIn]

theorem closing?_eq_none (h : c ∉ bracketChars) : closing? c = none := by
  cases hClosing : closing? c with
  | none => rfl
  | some d =>
    unfold closing? at hClosing
    split at hClosing <;> simp_all [bracketChars]

theorem awaitedNext_plain (h : c ∉ bracketChars) : awaitedNext awaited c = some awaited := by
  simp [awaitedNext, closing?_eq_none h, h]

/-- A character opens a bracket, closes the innermost open one, or is none. -/
theorem awaitedNext_eq_some (h : awaitedNext awaited c = some awaited') :
    (∃ d, closing? c = some d ∧ awaited' = d :: awaited) ∨ awaited = c :: awaited' ∨
      (c ∉ bracketChars ∧ awaited' = awaited) := by
  unfold awaitedNext at h
  split at h
  · rename_i d hOpening
    exact .inl ⟨d, hOpening, (Option.some.inj h).symm⟩
  · split at h
    · split at h
      · rename_i hHead
        obtain ⟨rest, rfl⟩ := List.head?_eq_some_iff.1 hHead
        exact .inr (.inl (congrArg _ (Option.some.inj h)))
      · contradiction
    · rename_i hPlain
      exact .inr (.inr ⟨hPlain, (Option.some.inj h).symm⟩)

end Step

/-! ## Nested characters -/

theorem IsNested.awaitedAfter_eq {cs : List Char} (h : IsNested cs) (awaited : List Char) :
    awaitedAfter awaited cs = some awaited := by
  induction h generalizing awaited with
  | nil => rfl
  | plain hPlain _ ih => rw [awaitedAfter_cons, awaitedNext_plain hPlain, Option.bind_some, ih]
  | pair hOpening _ _ ihInner ih =>
    rw [awaitedAfter_cons, awaitedNext_opening hOpening, Option.bind_some, awaitedAfter_append,
      ihInner, Option.bind_some, awaitedAfter_cons, awaitedNext_closing hOpening,
      Option.bind_some, ih]

/-- Characters close brackets one after the other and are nested in between. -/
def Closes : (awaited : List Char) → List Char → Prop
  | [], cs => IsNested cs
  | d :: awaited, cs => ∃ inner r, cs = inner ++ d :: r ∧ IsNested inner ∧ Closes awaited r

/-- What may stand in front of nested characters may stand in front of those that close more. -/
theorem Closes.prepend {front : List Char} (hFront : ∀ cs, IsNested cs → IsNested (front ++ cs))
    {awaited cs : List Char} (h : Closes awaited cs) : Closes awaited (front ++ cs) := by
  cases awaited with
  | nil => exact hFront cs h
  | cons d awaited =>
    obtain ⟨inner, r, rfl, hInner, hRest⟩ := h
    exact ⟨front ++ inner, r, by rw [List.append_assoc], hFront inner hInner, hRest⟩

theorem closes_of_awaitedAfter {awaited cs : List Char} (h : awaitedAfter awaited cs = some []) :
    Closes awaited cs := by
  induction cs generalizing awaited with
  | nil =>
    cases h
    exact .nil
  | cons c r ih =>
    rw [awaitedAfter_cons] at h
    obtain ⟨awaited', hNext, hRest⟩ := Option.bind_eq_some_iff.1 h
    rcases awaitedNext_eq_some hNext with ⟨d, hOpening, rfl⟩ | rfl | ⟨hPlain, rfl⟩
    · obtain ⟨inner, rest, rfl, hInner, hCloses⟩ := ih hRest
      have hPair : ∀ cs, IsNested cs → IsNested (c :: (inner ++ [d]) ++ cs) := fun cs hcs => by
        simpa using IsNested.pair hOpening hInner hcs
      simpa using hCloses.prepend hPair
    · exact ⟨[], r, rfl, .nil, ih hRest⟩
    · have hFront : ∀ cs, IsNested cs → IsNested ([c] ++ cs) := fun cs hcs => .plain hPlain hcs
      exact (ih hRest).prepend hFront

theorem isNested_iff {cs : List Char} : IsNested cs ↔ awaitedAfter [] cs = some [] :=
  ⟨fun h => h.awaitedAfter_eq [], closes_of_awaitedAfter⟩

instance : DecidablePred IsNested := fun _ => decidable_of_iff _ isNested_iff.symm

theorem IsNested.of_not_mem {cs : List Char} (h : ∀ c ∈ bracketChars, c ∉ cs) : IsNested cs := by
  induction cs with
  | nil => exact .nil
  | cons c r ih =>
    exact .plain (fun hIn => h c hIn List.mem_cons_self)
      (ih fun d hd hIn => h d hd (List.mem_cons_of_mem _ hIn))

end ViewAdapters.Text
