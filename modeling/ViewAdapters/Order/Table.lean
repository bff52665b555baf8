import ViewAdapters.Order.SortedMap

/-!
# Tables

Lists of keys with values that keep the order in which the keys were first set.

* `Table.keys_set`: setting a key keeps the keys and adds a new one last.
* `Table.lookup_set`, `Table.lookup_setAll`: what is found after keys were set.
-/

namespace ViewAdapters

abbrev Table (κ ν : Type) := List (κ × ν)

namespace Table

variable {κ ν : Type} [DecidableEq κ]

/-- Sets a key; one that is there is changed in its place. -/
def set (table : Table κ ν) (key : κ) (value : ν) : Table κ ν :=
  match table with
  | [] => [(key, value)]
  | e :: r => if e.1 = key then (key, value) :: r else e :: set r key value

def setAll (table entries : Table κ ν) : Table κ ν :=
  entries.foldl (fun t e => set t e.1 e.2) table

theorem keys_set (table : Table κ ν) (key : κ) (value : ν) :
    (table.set key value).map Prod.fst =
      if key ∈ table.map Prod.fst then table.map Prod.fst
      else table.map Prod.fst ++ [key] := by
  induction table with
  | nil => rfl
  | cons e r ih =>
    by_cases h : e.1 = key
    · simp [set, h]
    · simp only [set, h, if_false, List.map_cons, ih, List.mem_cons, Ne.symm h, false_or]
      split <;> simp

theorem nodup_keys_set {table : Table κ ν} (h : (table.map Prod.fst).Nodup) (key : κ)
    (value : ν) : ((table.set key value).map Prod.fst).Nodup := by
  rw [keys_set]
  split
  · exact h
  · rename_i hNew
    rw [List.nodup_append]
    refine ⟨h, by simp, fun a ha b hb hSame => hNew ?_⟩
    rw [← List.mem_singleton.1 hb, ← hSame]
    exact ha

theorem nodup_keys_setAll {table : Table κ ν} (h : (table.map Prod.fst).Nodup)
    (entries : Table κ ν) : ((table.setAll entries).map Prod.fst).Nodup := by
  unfold setAll
  induction entries generalizing table with
  | nil => exact h
  | cons e r ih => exact ih (nodup_keys_set h e.1 e.2)

theorem lookup_set (table : Table κ ν) (key : κ) (value : ν) (other : κ) :
    (table.set key value).lookup other =
      if other = key then some value else table.lookup other := by
  induction table with
  | nil => rw [set, SortedMap.lookup_cons]
  | cons e r ih =>
    unfold set
    split
    · rename_i hKey
      rw [SortedMap.lookup_cons, SortedMap.lookup_cons, hKey]
      split <;> rfl
    · rename_i hKey
      rw [SortedMap.lookup_cons, SortedMap.lookup_cons, ih]
      by_cases hOther : other = e.1
      · rw [if_pos hOther, if_pos hOther, if_neg fun hSame => hKey (hOther ▸ hSame)]
      · rw [if_neg hOther, if_neg hOther]

theorem setAll_append (table entries more : Table κ ν) :
    table.setAll (entries ++ more) = (table.setAll entries).setAll more :=
  List.foldl_append

/-- Of several entries that are set the last one counts. -/
theorem lookup_setAll (table entries : Table κ ν) (key : κ) :
    (table.setAll entries).lookup key = (entries.reverse.lookup key).or (table.lookup key) := by
  unfold setAll
  induction entries generalizing table with
  | nil => rfl
  | cons e r ih =>
    rw [List.foldl_cons, ih, List.reverse_cons, List.lookup_append, lookup_set,
      SortedMap.lookup_cons, Option.or_assoc]
    split <;> rfl

end Table
end ViewAdapters
