/-!
# Endings and segments of names

A name may carry an ending that is dropped from it, and a dotted name has
segments of which the last one is its simple name.

* `dropEnding?_eq_some_iff`: dropping an ending undoes appending it.
* `stem?_eq_some_iff`: the stem is what stands before the ending, and is never empty.
* `lastSegment_of_not_mem`: a name without a dot is its own last segment.
* `lastSegment_append`: what stands before the last dot does not matter.
-/

namespace ViewAdapters.Text

/-- What stands before an ending of the text. -/
def dropEnding? (ending cs : List Char) : Option (List Char) :=
  if ending.isSuffixOf cs then some (cs.take (cs.length - ending.length)) else none

theorem dropEnding?_eq_some_iff {ending cs front : List Char} :
    dropEnding? ending cs = some front ↔ cs = front ++ ending := by
  unfold dropEnding?
  constructor
  · intro h
    split at h
    · rename_i hc
      obtain ⟨front, rfl⟩ := List.isSuffixOf_iff_suffix.1 hc
      simp at h
      rw [h]
    · contradiction
  · rintro rfl
    simp [List.isSuffixOf_iff_suffix]

/-- A text is shorter without its ending. -/
theorem length_lt_of_dropEnding? {ending cs front : List Char} (hSome : ending ≠ [])
    (h : dropEnding? ending cs = some front) : front.length < cs.length := by
  rw [dropEnding?_eq_some_iff.1 h, List.length_append]
  exact Nat.lt_add_of_pos_right (List.length_pos_iff.2 hSome)

/-- What stands before an ending, if something does. -/
def stem? (ending cs : List Char) : Option (List Char) :=
  (dropEnding? ending cs).filter fun front => !front.isEmpty

theorem stem?_eq_some_iff {ending cs stem : List Char} :
    stem? ending cs = some stem ↔ cs = stem ++ ending ∧ stem ≠ [] := by
  simp [stem?, Option.filter_eq_some_iff, dropEnding?_eq_some_iff]

/-- What stands before the first dot. -/
def beforeDot : List Char → List Char
  | [] => []
  | c :: r => if c = '.' then [] else c :: beforeDot r

/-- The characters after the last dot; all of them if there is none. -/
def lastSegmentChars (cs : List Char) : List Char := (beforeDot cs.reverse).reverse

def lastSegment (s : String) : String := String.ofList (lastSegmentChars s.toList)

theorem beforeDot_of_not_mem {cs : List Char} (h : '.' ∉ cs) : beforeDot cs = cs := by
  induction cs with
  | nil => rfl
  | cons c r ih =>
    have hc : c ≠ '.' := fun e => h (by simp [e])
    rw [beforeDot, if_neg hc, ih fun e => h (by simp [e])]

theorem lastSegment_of_not_mem {cs : List Char} (h : '.' ∉ cs) : lastSegmentChars cs = cs := by
  rw [lastSegmentChars, beforeDot_of_not_mem (by simpa using h), List.reverse_reverse]

theorem beforeDot_append_dot {cs rest : List Char} (h : '.' ∉ cs) :
    beforeDot (cs ++ '.' :: rest) = cs := by
  induction cs with
  | nil => rfl
  | cons c r ih =>
    have hc : c ≠ '.' := fun e => h (by simp [e])
    rw [List.cons_append, beforeDot, if_neg hc, ih fun e => h (by simp [e])]

theorem lastSegment_append {front cs : List Char} (h : '.' ∉ cs) :
    lastSegmentChars (front ++ '.' :: cs) = cs := by
  have hr : (front ++ '.' :: cs).reverse = cs.reverse ++ '.' :: front.reverse := by simp
  rw [lastSegmentChars, hr, beforeDot_append_dot (by simpa using h), List.reverse_reverse]

/-- A last segment is the whole text or stands behind a dot. -/
theorem exists_front_lastSegment (cs : List Char) :
    lastSegmentChars cs = cs ∨ ∃ front, cs = front ++ '.' :: lastSegmentChars cs := by
  by_cases hDot : '.' ∈ cs
  · obtain ⟨back, front, hSplit, hBack⟩ :=
      List.eq_append_cons_of_mem (List.mem_reverse.2 hDot)
    have hChars : cs = front.reverse ++ '.' :: back.reverse := by
      rw [← List.reverse_reverse cs, hSplit]
      simp
    have hLast := @lastSegment_append front.reverse back.reverse (by simpa)
    refine .inr ⟨front.reverse, ?_⟩
    rw [hChars, hLast]
  · exact .inl (lastSegment_of_not_mem hDot)

theorem mem_of_mem_lastSegment {c : Char} {cs : List Char} (h : c ∈ lastSegmentChars cs) :
    c ∈ cs := by
  rcases exists_front_lastSegment cs with hAll | ⟨front, hSplit⟩
  · rwa [hAll] at h
  · rw [hSplit]
    exact List.mem_append_right _ (List.mem_cons_of_mem _ h)

/-- What follows several dots stands behind one. -/
theorem exists_front_dropDots (r : List Char) :
    ∃ front, '.' :: r = front ++ '.' :: r.dropWhile (· == '.') := by
  induction r with
  | nil => exact ⟨[], rfl⟩
  | cons c r ih =>
    by_cases hc : c = '.'
    · obtain ⟨front, hFront⟩ := ih
      refine ⟨'.' :: front, ?_⟩
      rw [List.dropWhile_cons_of_pos (by simp [hc]), hc, hFront, List.cons_append]
    · refine ⟨[], ?_⟩
      rw [List.dropWhile_cons_of_neg (by simp [hc]), List.nil_append]

end ViewAdapters.Text
