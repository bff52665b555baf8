/-!
# Lists in strict order

* `StrictList.eq_of_mem_iff`: lists in strict order with the same items are equal.
-/

namespace ViewAdapters.StrictList

variable {α : Type} {r : α → α → Prop}

theorem head_eq_of_mem_iff (hIrrefl : ∀ a, ¬ r a a) (hTrans : ∀ {a b c}, r a b → r b c → r a c)
    {x y : α} {s t : List α} (hs : ∀ z ∈ s, r x z) (ht : ∀ z ∈ t, r y z)
    (h : ∀ z, z ∈ x :: s ↔ z ∈ y :: t) : x = y := by
  rcases List.mem_cons.1 ((h x).1 (by simp)) with rfl | hx
  · rfl
  · rcases List.mem_cons.1 ((h y).2 (by simp)) with rfl | hy
    · rfl
    · exact absurd (hTrans (ht x hx) (hs y hy)) (hIrrefl y)

theorem eq_of_mem_iff {s t : List α} (hs : s.Pairwise r) (ht : t.Pairwise r)
    (hIrrefl : ∀ a, ¬ r a a) (hTrans : ∀ {a b c}, r a b → r b c → r a c)
    (h : ∀ x, x ∈ s ↔ x ∈ t) : s = t := by
  induction s generalizing t with
  | nil =>
    cases t with
    | nil => rfl
    | cons y t => exact absurd ((h y).2 (by simp)) (by simp)
  | cons x s ih =>
    cases t with
    | nil => exact absurd ((h x).1 (by simp)) (by simp)
    | cons y t =>
      rw [List.pairwise_cons] at hs ht
      obtain rfl := head_eq_of_mem_iff hIrrefl hTrans hs.1 ht.1 h
      congr 1
      refine ih hs.2 ht.2 fun z => ?_
      have hz := h z
      simp only [List.mem_cons] at hz
      constructor
      · intro hm
        rcases hz.1 (.inr hm) with rfl | hm'
        · exact absurd (hs.1 _ hm) (hIrrefl _)
        · exact hm'
      · intro hm
        rcases hz.2 (.inr hm) with rfl | hm'
        · exact absurd (ht.1 _ hm) (hIrrefl _)
        · exact hm'

end ViewAdapters.StrictList
