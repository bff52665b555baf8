import ViewAdapters.Order.StrictList

/-!
# Sorted sets

Sets whose items stand in the order of a text key, by code point, each once.

* `SortedSet.mem_insert`, `SortedSet.mem_union`, `SortedSet.mem_ofList`: what the
  operations hold.
* `SortedSet.ext_mem`: sets with the same items are equal if the key tells items apart.
-/

namespace ViewAdapters

structure SortedSet {α : Type} (key : α → String) where
  items : List α
  sorted : items.Pairwise fun a b => key a < key b
  deriving DecidableEq, Repr

namespace SortedSet

variable {α : Type} {key : α → String}

instance : Membership α (SortedSet key) := ⟨fun s a => a ∈ s.items⟩

def empty : SortedSet key := ⟨[], .nil⟩

/-- Puts an item before the first with a greater key, unless its key is there. -/
def insertItem (key : α → String) (a : α) : List α → List α
  | [] => [a]
  | b :: r =>
    if key a < key b then a :: b :: r
    else if key a = key b then b :: r
    else b :: insertItem key a r

theorem mem_of_mem_insertItem {a x : α} {items : List α} (h : x ∈ insertItem key a items) :
    x = a ∨ x ∈ items := by
  induction items with
  | nil => simpa [insertItem] using h
  | cons b r ih =>
    unfold insertItem at h
    split at h
    · simpa using h
    · split at h
      · exact .inr h
      · rcases List.mem_cons.1 h with rfl | h
        · simp
        · rcases ih h with rfl | h <;> simp_all

theorem mem_insertItem_of_mem {a x : α} {items : List α} (h : x ∈ items) :
    x ∈ insertItem key a items := by
  induction items with
  | nil => simp at h
  | cons b r ih =>
    unfold insertItem
    split
    · exact List.mem_cons_of_mem _ h
    · split
      · exact h
      · rcases List.mem_cons.1 h with rfl | h
        · simp
        · exact List.mem_cons_of_mem _ (ih h)

theorem key_mem_insertItem (a : α) (items : List α) :
    ∃ x ∈ insertItem key a items, key x = key a := by
  induction items with
  | nil => exact ⟨a, by simp [insertItem], rfl⟩
  | cons b r ih =>
    unfold insertItem
    split
    · exact ⟨a, by simp, rfl⟩
    · split
      · rename_i h
        exact ⟨b, by simp, h.symm⟩
      · obtain ⟨x, hx, he⟩ := ih
        exact ⟨x, List.mem_cons_of_mem _ hx, he⟩

theorem pairwise_insertItem (a : α) {items : List α}
    (h : items.Pairwise fun a b => key a < key b) :
    (insertItem key a items).Pairwise fun a b => key a < key b := by
  induction items with
  | nil => simp [insertItem]
  | cons b r ih =>
    rw [List.pairwise_cons] at h
    unfold insertItem
    split
    · rename_i hab
      refine List.pairwise_cons.2 ⟨fun x hx => ?_, List.pairwise_cons.2 h⟩
      rcases List.mem_cons.1 hx with rfl | hx
      · exact hab
      · exact String.lt_trans hab (h.1 x hx)
    · split
      · exact List.pairwise_cons.2 h
      · rename_i hab hne
        refine List.pairwise_cons.2 ⟨fun x hx => ?_, ih h.2⟩
        rcases mem_of_mem_insertItem hx with rfl | hx
        · exact String.not_le.1 fun hle => hne (String.le_antisymm hle (String.not_lt.1 hab))
        · exact h.1 x hx

def insert (s : SortedSet key) (a : α) : SortedSet key :=
  ⟨insertItem key a s.items, pairwise_insertItem a s.sorted⟩

/-- The items of a list; of several with one key the first stays. -/
def insertAll (s : SortedSet key) (items : List α) : SortedSet key := items.foldl insert s

def ofList (items : List α) : SortedSet key := empty.insertAll items

def union (s t : SortedSet key) : SortedSet key := s.insertAll t.items

theorem mem_insert (hKey : Function.Injective key) {s : SortedSet key} {a x : α} :
    x ∈ s.insert a ↔ x = a ∨ x ∈ s := by
  constructor
  · exact mem_of_mem_insertItem
  · rintro (rfl | h)
    · obtain ⟨y, hy, he⟩ : ∃ y ∈ insertItem key x s.items, key y = key x :=
        key_mem_insertItem x s.items
      exact hKey he ▸ hy
    · exact mem_insertItem_of_mem h

theorem mem_insertAll (hKey : Function.Injective key) {s : SortedSet key} {items : List α} {x : α} :
    x ∈ s.insertAll items ↔ x ∈ s ∨ x ∈ items := by
  unfold insertAll
  induction items generalizing s with
  | nil => simp
  | cons a r ih =>
    rw [List.foldl_cons, ih, mem_insert hKey, List.mem_cons, or_assoc, or_left_comm]

theorem mem_ofList (hKey : Function.Injective key) {items : List α} {x : α} :
    x ∈ (ofList items : SortedSet key) ↔ x ∈ items := by
  rw [ofList, mem_insertAll hKey]
  have h : x ∉ (empty : SortedSet key) := List.not_mem_nil
  simp [h]

theorem mem_union (hKey : Function.Injective key) {s t : SortedSet key} {x : α} :
    x ∈ s.union t ↔ x ∈ s ∨ x ∈ t := mem_insertAll hKey

theorem ext_mem {s t : SortedSet key} (h : ∀ x, x ∈ s ↔ x ∈ t) : s = t := by
  obtain ⟨a, ha⟩ := s
  obtain ⟨b, hb⟩ := t
  simp only [SortedSet.mk.injEq]
  exact StrictList.eq_of_mem_iff ha hb (fun _ => String.lt_irrefl _) String.lt_trans h

end SortedSet
end ViewAdapters
