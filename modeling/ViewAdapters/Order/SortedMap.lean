import ViewAdapters.Order.StrictList

/-!
# Sorted maps

Maps whose entries stand in the order of their keys, each key once.

* `SortedMap.get?_insert`, `SortedMap.get?_filter`: what is found after a change.
* `SortedMap.mem_entries_iff`: the entries are what is found.
* `SortedMap.ext_get?`: maps in which the same is found are equal.
-/

namespace ViewAdapters

/-- An order in which keys can stand, each once. -/
class KeyOrder (κ : Type) [LT κ] : Prop where
  irrefl (a : κ) : ¬ a < a
  trans {a b c : κ} : a < b → b < c → a < c
  eq_of_not_lt {a b : κ} : ¬ a < b → ¬ b < a → a = b

/-- Sequences of names are ordered by the first names in which they differ. -/
instance : KeyOrder (List String) where
  irrefl := List.lt_irrefl
  trans := List.lt_trans
  eq_of_not_lt hab hba := List.le_antisymm (List.not_lt.1 hba) (List.not_lt.1 hab)

structure SortedMap (κ ν : Type) [LT κ] where
  entries : List (κ × ν)
  sorted : entries.Pairwise fun x y => x.1 < y.1

namespace SortedMap

variable {κ ν : Type} [DecidableEq κ]

theorem lookup_cons (x : κ × ν) (r : List (κ × ν)) (k : κ) :
    (x :: r).lookup k = if k = x.1 then some x.2 else r.lookup k := by
  obtain ⟨key, value⟩ := x
  rw [List.lookup_cons]
  by_cases h : k = key
  · rw [if_pos h, beq_iff_eq.2 h]
  · rw [if_neg h, beq_eq_false_iff_ne.2 h]

theorem mem_of_lookup {k : κ} {v : ν} {entries : List (κ × ν)} (h : entries.lookup k = some v) :
    (k, v) ∈ entries := by
  induction entries with
  | nil => contradiction
  | cons x r ih =>
    rw [lookup_cons] at h
    split at h
    · rename_i hk
      cases h
      simp [hk]
    · exact List.mem_cons_of_mem _ (ih h)

theorem lookup_of_mem [LT κ] [KeyOrder κ] {k : κ} {v : ν} {entries : List (κ × ν)}
    (hSorted : entries.Pairwise fun x y => x.1 < y.1) (h : (k, v) ∈ entries) :
    entries.lookup k = some v := by
  induction entries with
  | nil => contradiction
  | cons x r ih =>
    rw [List.pairwise_cons] at hSorted
    rw [lookup_cons]
    rcases List.mem_cons.1 h with rfl | h
    · simp
    · rw [if_neg, ih hSorted.2 h]
      intro hk
      have hlt := hSorted.1 _ h
      rw [hk] at hlt
      exact KeyOrder.irrefl _ hlt

theorem lookup_filter (keeps : κ → Bool) (k : κ) (entries : List (κ × ν)) :
    (entries.filter fun x => keeps x.1).lookup k =
      if keeps k then entries.lookup k else none := by
  induction entries with
  | nil => simp
  | cons x r ih =>
    rw [List.filter_cons]
    by_cases hk : k = x.1
    · subst hk
      split
      · simp [lookup_cons]
      · rename_i hKeeps
        rw [ih, if_neg hKeeps]
    · split
      · rw [lookup_cons, lookup_cons, if_neg hk, if_neg hk, ih]
      · rw [lookup_cons, if_neg hk, ih]

variable [LT κ]

def empty : SortedMap κ ν := ⟨[], .nil⟩

def get? (m : SortedMap κ ν) (k : κ) : Option ν := m.entries.lookup k

theorem mem_entries_iff [KeyOrder κ] {m : SortedMap κ ν} {k : κ} {v : ν} :
    (k, v) ∈ m.entries ↔ m.get? k = some v :=
  ⟨lookup_of_mem m.sorted, mem_of_lookup⟩

/-- The entries with keys that satisfy a condition. -/
def filter (m : SortedMap κ ν) (keeps : κ → Bool) : SortedMap κ ν :=
  ⟨m.entries.filter fun x => keeps x.1, m.sorted.sublist List.filter_sublist⟩

theorem get?_filter (m : SortedMap κ ν) (keeps : κ → Bool) (k : κ) :
    (m.filter keeps).get? k = if keeps k then m.get? k else none :=
  lookup_filter keeps k m.entries

/-! ## Insertion -/

section Insert

variable [DecidableLT κ]

/-- Puts an entry before the first with a greater key, in place of one with its key. -/
def insertEntry (k : κ) (v : ν) : List (κ × ν) → List (κ × ν)
  | [] => [(k, v)]
  | x :: r =>
    if k < x.1 then (k, v) :: x :: r
    else if k = x.1 then (k, v) :: r
    else x :: insertEntry k v r

theorem mem_of_mem_insertEntry {k : κ} {v : ν} {x : κ × ν} {entries : List (κ × ν)}
    (h : x ∈ insertEntry k v entries) : x = (k, v) ∨ x ∈ entries := by
  induction entries with
  | nil => simpa [insertEntry] using h
  | cons y r ih =>
    unfold insertEntry at h
    split at h
    · simpa using h
    · split at h
      · rcases List.mem_cons.1 h with h | h
        · exact .inl h
        · exact .inr (List.mem_cons_of_mem _ h)
      · rcases List.mem_cons.1 h with rfl | h
        · simp
        · rcases ih h with h | h
          · exact .inl h
          · exact .inr (List.mem_cons_of_mem _ h)

theorem lookup_insertEntry (k q : κ) (v : ν)
    (entries : List (κ × ν)) :
    (insertEntry k v entries).lookup q = if q = k then some v else entries.lookup q := by
  induction entries with
  | nil => rw [insertEntry, lookup_cons]
  | cons x r ih =>
    unfold insertEntry
    split
    · rw [lookup_cons]
    · split
      · rename_i hk
        rw [lookup_cons, lookup_cons, hk]
        split <;> rfl
      · rename_i hk
        rw [lookup_cons, lookup_cons, ih]
        by_cases hq : q = k
        · rw [if_pos hq, if_neg fun e => hk (hq ▸ e), if_pos hq]
        · rw [if_neg hq, if_neg hq]

variable [KeyOrder κ]

theorem pairwise_insertEntry (k : κ) (v : ν) {entries : List (κ × ν)}
    (h : entries.Pairwise fun x y => x.1 < y.1) :
    (insertEntry k v entries).Pairwise fun x y => x.1 < y.1 := by
  induction entries with
  | nil => simp [insertEntry]
  | cons y r ih =>
    rw [List.pairwise_cons] at h
    unfold insertEntry
    split
    · rename_i hk
      refine List.pairwise_cons.2 ⟨fun x hx => ?_, List.pairwise_cons.2 h⟩
      rcases List.mem_cons.1 hx with rfl | hx
      · exact hk
      · exact KeyOrder.trans hk (h.1 x hx)
    · split
      · rename_i hk
        refine List.pairwise_cons.2 ⟨fun x hx => ?_, h.2⟩
        exact hk ▸ h.1 x hx
      · rename_i hlt hne
        refine List.pairwise_cons.2 ⟨fun x hx => ?_, ih h.2⟩
        rcases mem_of_mem_insertEntry hx with rfl | hx
        · exact Decidable.byContradiction fun hn =>
            hne (KeyOrder.eq_of_not_lt hlt hn)
        · exact h.1 x hx

def insert (m : SortedMap κ ν) (k : κ) (v : ν) : SortedMap κ ν :=
  ⟨insertEntry k v m.entries, pairwise_insertEntry k v m.sorted⟩

theorem get?_insert (m : SortedMap κ ν) (k q : κ) (v : ν) :
    (m.insert k v).get? q = if q = k then some v else m.get? q :=
  lookup_insertEntry k q v m.entries

end Insert

/-! ## Equality -/

theorem ext_get? [KeyOrder κ]
    {m n : SortedMap κ ν} (h : ∀ k, m.get? k = n.get? k) : m = n := by
  have hEntries : m.entries = n.entries := by
    refine StrictList.eq_of_mem_iff m.sorted n.sorted (fun x => KeyOrder.irrefl x.1)
      KeyOrder.trans fun x => ?_
    obtain ⟨k, v⟩ := x
    rw [mem_entries_iff, mem_entries_iff, h]
  cases m
  cases n
  cases hEntries
  rfl

end SortedMap
end ViewAdapters
