import ViewAdapters.Files.Operation

/-!
# Directories that stay

Where a path leads depends on the directories of a tree alone. A change that takes
no directory away leaves every path that leads somewhere where it led, and trees
with the same directories accept the same writes.

* `locate_of_keeps`: a path that leads to a place still leads there.
* `exists_above_of_locate`: a path that ends in a name leads to a place below a directory.
* `length_eq_of_entries`, `get_of_begins`: how the places of paths with the same first names lie.
* `locate_entry`: in a directory, a name leads to the place right below it, unless the
  system refuses the name or the whole path.
* `write_congr`: trees with the same directories accept a write at the same place.
* `makeDirectories_induction`: what making the directories of a path comes to, from what
  making one of them comes to.
* `makeDirectories_spec`: making directories takes nothing away, makes no file, and
  ends with a directory or a fault.
-/

namespace ViewAdapters

/-- The path of a name in a directory. -/
def Path.entry (p : Path) (name : String) : Path := p.join ⟨"", [name]⟩

/-- The names of a path are the first names of another one. -/
structure Path.Begins (a p : Path) : Prop where
  root : a.root = p.root
  parts : a.parts <+: p.parts

/-- A path has so few names that calls are left for as many missing directories. -/
def Path.IsShallow (calls : Option Nat) (p : Path) : Prop := ∀ n ∈ calls, p.parts.length ≤ n

theorem Path.Begins.refl (p : Path) : p.Begins p := ⟨rfl, List.prefix_rfl⟩

theorem Path.Begins.trans {a b p : Path} (hab : a.Begins b) (hbp : b.Begins p) : a.Begins p :=
  ⟨hab.root.trans hbp.root, hab.parts.trans hbp.parts⟩

/-- A path begins the one with a further name. -/
theorem Path.begins_reverse_cons (root name : String) (above : List String) :
    Path.Begins ⟨root, above.reverse⟩ ⟨root, (name :: above).reverse⟩ :=
  ⟨rfl, by rw [List.reverse_cons]; exact List.prefix_append _ _⟩

namespace Files

/-- What is a directory in one tree is one in the other, seen from the same place. -/
structure KeepsDirectories (f g : Files) : Prop where
  workingPlace : g.workingPlace = f.workingPlace
  get : ∀ place, f.get place = some .directory → g.get place = some .directory

/-- The two trees have the same directories. -/
def SameDirectories (f g : Files) : Prop := f.KeepsDirectories g ∧ g.KeepsDirectories f

/-- A path leads to a directory. -/
structure LeadsTo (f : Files) (p : Path) (place : Place) : Prop where
  locate : f.locate p = .ok place
  get : f.get place = some .directory

/-- Files keep their own directories. -/
theorem KeepsDirectories.refl (f : Files) : f.KeepsDirectories f := ⟨rfl, fun _ h => h⟩

theorem KeepsDirectories.trans {f g k : Files} (hfg : f.KeepsDirectories g)
    (hgk : g.KeepsDirectories k) : f.KeepsDirectories k :=
  ⟨hgk.workingPlace.trans hfg.workingPlace, fun place h => hgk.get place (hfg.get place h)⟩

theorem SameDirectories.refl (f : Files) : f.SameDirectories f :=
  ⟨KeepsDirectories.refl f, KeepsDirectories.refl f⟩

theorem SameDirectories.symm {f g : Files} (h : f.SameDirectories g) : g.SameDirectories f :=
  ⟨h.2, h.1⟩

theorem SameDirectories.trans {f g k : Files} (hfg : f.SameDirectories g)
    (hgk : g.SameDirectories k) : f.SameDirectories k :=
  ⟨hfg.1.trans hgk.1, hgk.2.trans hfg.2⟩

/-- The directories of both are at the same places. -/
theorem SameDirectories.get_iff {f g : Files} (h : f.SameDirectories g) (place : Place) :
    f.get place = some .directory ↔ g.get place = some .directory :=
  ⟨h.1.get place, h.2.get place⟩

/-! ## Where paths lead -/

/-- Names that lead somewhere through directories still do where these are kept. -/
theorem follow_of_keeps {f g : Files} (h : f.KeepsDirectories g) {place q : Place}
    {names : List String} (hf : f.follow place names = .ok q) :
    g.follow place names = .ok q := by
  induction names generalizing place with
  | nil => exact hf
  | cons name rest ih =>
    obtain ⟨hDir, ⟨hUp, hRest⟩ | ⟨hName, hShort, hRest⟩⟩ := follow_cons_eq_ok_iff.1 hf
    · exact follow_cons_eq_ok_iff.2 ⟨h.get place hDir, .inl ⟨hUp, ih hRest⟩⟩
    · exact follow_cons_eq_ok_iff.2 ⟨h.get place hDir, .inr ⟨hName, hShort, ih hRest⟩⟩

theorem start_of_keeps {f g : Files} (h : f.KeepsDirectories g) (p : Path) :
    g.start p = f.start p := by
  unfold start
  rw [h.workingPlace]

/-- A path has a place if the system takes it and its names lead there. -/
theorem locate_eq_ok_iff {f : Files} {p : Path} {place : Place} :
    f.locate p = .ok place ↔
      pathFault? p = none ∧ f.follow (f.start p) p.parts = .ok place := by
  unfold locate
  cases pathFault? p with
  | some fault => simp
  | none =>
    cases f.follow (f.start p) p.parts with
    | error reason => exact iff_of_false nofun fun h => nomatch h.2
    | ok q =>
      show (Except.ok q : Except FileFault Place) = .ok place ↔ _
      simp

theorem locate_of_keeps {f g : Files} (h : f.KeepsDirectories g) {p : Path} {place : Place}
    (hf : f.locate p = .ok place) : g.locate p = .ok place := by
  rw [locate_eq_ok_iff] at hf ⊢
  obtain ⟨hPath, hFollow⟩ := hf
  refine ⟨hPath, ?_⟩
  rw [start_of_keeps h]
  exact follow_of_keeps h hFollow

theorem LeadsTo.of_keeps {f g : Files} (h : f.KeepsDirectories g) {p : Path} {place : Place}
    (hf : f.LeadsTo p place) : g.LeadsTo p place :=
  ⟨locate_of_keeps h hf.locate, h.get place hf.get⟩

/-- A path leads to one directory at most. -/
theorem LeadsTo.unique {f : Files} {p : Path} {a b : Place} (ha : f.LeadsTo p a)
    (hb : f.LeadsTo p b) : a = b := by
  have h := ha.locate.symm.trans hb.locate
  cases h
  rfl

/-- Names are followed one after the other. -/
theorem follow_append (f : Files) (place : Place) (names more : List String) :
    f.follow place (names ++ more) =
      (f.follow place names).bind fun q => f.follow q more := by
  induction names generalizing place with
  | nil => rfl
  | cons first rest ih =>
    rw [List.cons_append, follow, follow]
    split
    · rfl
    · rfl
    · split
      · exact ih _
      · split
        · rfl
        · exact ih _

theorem follow_concat {f : Files} {place q : Place} {names : List String} {name : String}
    (h : f.follow place names = .ok q) :
    f.follow place (names ++ [name]) = f.follow q [name] := by
  rw [follow_append, h]
  rfl

/-- A path that ends in a name leads to a place right below the directory that the names before
lead to. -/
theorem exists_above_of_locate {f : Files} {p : Path} {q : Place} {front : List String}
    {name : String} (hParts : p.parts = front ++ [name]) (hUp : name ≠ Path.up)
    (h : f.locate p = .ok q) :
    ∃ above, f.follow (f.start p) front = .ok above ∧ f.get above = some .directory ∧
      q = above ++ [name] := by
  obtain ⟨-, hFollow⟩ := locate_eq_ok_iff.1 h
  rw [hParts, follow_append] at hFollow
  cases hFront : f.follow (f.start p) front with
  | error reason =>
    rw [hFront] at hFollow
    contradiction
  | ok above =>
    rw [hFront] at hFollow
    change f.follow above [name] = .ok q at hFollow
    obtain ⟨hDir, ⟨hName, -⟩ | ⟨-, -, hLast⟩⟩ := follow_cons_eq_ok_iff.1 hFollow
    · exact absurd hName hUp
    · cases hLast
      exact ⟨above, rfl, hDir, rfl⟩

/-- Why a name in a directory is not followed, whatever the tree holds. -/
def entryFault? (p : Path) (name : String) : Option FileFault :=
  (pathFault? (p.entry name)).or
    (if maxNameBytes < nameBytes name then some (.refused .nameTooLong (p.entry name).text)
    else none)

/-- An entry of a directory is at the place of the directory and its name. -/
theorem locate_entry {f : Files} {p : Path} {place : Place} {name : String}
    (h : f.LeadsTo p place) (hUp : name ≠ Path.up) :
    f.locate (p.entry name) =
      match entryFault? p name with
      | some fault => .error fault
      | none => .ok (place ++ [name]) := by
  obtain ⟨-, hFollow⟩ := locate_eq_ok_iff.1 h.locate
  have hStart : f.start (p.entry name) = f.start p := rfl
  have hParts : (p.entry name).parts = p.parts ++ [name] := rfl
  unfold locate entryFault?
  cases pathFault? (p.entry name) with
  | some fault => rfl
  | none =>
    rw [hStart, hParts, follow_concat hFollow, follow, h.get]
    dsimp only
    rw [if_neg hUp, Option.none_or]
    split
    · rfl
    · rfl

/-! ## Writes -/

/-- Files are written at places that are no directories. -/
theorem placeToWrite_eq_ok_iff {f : Files} {p : Path} {place : Place} :
    f.placeToWrite p = .ok place ↔ f.locate p = .ok place ∧ f.get place ≠ some .directory := by
  unfold placeToWrite
  cases hPlace : f.locate p with
  | error fault => simp [bind, Except.bind]
  | ok q =>
    simp only [bind, Except.bind, Except.ok.injEq]
    split
    · rename_i hDir
      refine ⟨nofun, ?_⟩
      rintro ⟨rfl, hNot⟩
      exact absurd hDir hNot
    · rename_i hNot
      simp only [pure, Except.pure, Except.ok.injEq, iff_self_and]
      rintro rfl
      exact hNot

/-- Writing succeeds at a place that is no directory, and puts the file there. -/
theorem write_eq_ok_iff {f g : Files} {p : Path} {content : ByteArray} :
    f.write p content = .ok g ↔
      ∃ place, f.locate p = .ok place ∧ f.get place ≠ some .directory ∧
        g = f.put place (.file content) := by
  simp only [← and_assoc, ← placeToWrite_eq_ok_iff]
  unfold write
  cases f.placeToWrite p <;> simp [Except.map, eq_comm]

/-- The root is a directory, so nothing else stands there. -/
theorem ne_nil_of_get {f : Files} {place : Place} (h : f.get place ≠ some .directory) :
    place ≠ [] := by
  rintro rfl
  exact h (by simp [get])

/-- A file in place of anything but a directory leaves the directories as they are. -/
theorem sameDirectories_put_file {f : Files} {place : Place} {content : ByteArray}
    (h : f.get place ≠ some .directory) :
    f.SameDirectories (f.put place (.file content)) := by
  have hPlace := ne_nil_of_get h
  have hWorking := workingPlace_put f place (.file content)
  refine ⟨⟨hWorking, fun q hq => ?_⟩, ⟨hWorking.symm, fun q hq => ?_⟩⟩
  · rw [get_put hPlace, if_neg]
    · exact hq
    · rintro rfl
      exact h hq
  · rw [get_put hPlace] at hq
    split at hq
    · cases hq
    · exact hq

/-- Where files can be written is decided by the directories alone. -/
theorem write_congr {f g : Files} (h : f.SameDirectories g) {p : Path}
    {place : Place} :
    (f.locate p = .ok place ∧ f.get place ≠ some .directory) ↔
      (g.locate p = .ok place ∧ g.get place ≠ some .directory) := by
  rw [Ne, Ne, h.get_iff place]
  exact and_congr_left fun _ => ⟨locate_of_keeps h.1, locate_of_keeps h.2⟩

/-- What is written to a path is read from it. -/
theorem read_of_write {f g : Files} {p : Path} {content : ByteArray}
    (h : f.write p content = .ok g) : g.read p = .ok content := by
  obtain ⟨place, hPlace, hNot, rfl⟩ := write_eq_ok_iff.1 h
  have hLocate : (f.put place (.file content)).locate p = .ok place :=
    locate_of_keeps (sameDirectories_put_file hNot).1 hPlace
  have hGet : (f.put place (.file content)).get place = some (.file content) := by
    rw [get_put (ne_nil_of_get hNot), if_pos rfl]
  simp [read, find, hLocate, hGet, bind, Except.bind, pure, Except.pure]

/-- In a directory, how a write fails depends on the directories alone. -/
theorem write_entry_eq_error_iff {f : Files} {p : Path} {place : Place} {name : String}
    (h : f.LeadsTo p place) (hUp : name ≠ Path.up) {content : ByteArray} {fault : FileFault} :
    f.write (p.entry name) content = .error fault ↔
      entryFault? p name = some fault ∨
        entryFault? p name = none ∧ f.get (place ++ [name]) = some .directory ∧
          fault = .refused .isDirectory (p.entry name).text := by
  unfold write placeToWrite
  rw [locate_entry h hUp]
  cases entryFault? p name with
  | some other => simp [bind, Except.bind, Except.map]
  | none =>
    simp only [bind, Except.bind, reduceCtorEq, false_or, true_and]
    split
    · rename_i hDir
      simp [hDir, throw, throwThe, MonadExceptOf.throw, Except.map, eq_comm]
    · rename_i hNot
      simp only [pure, Except.pure, Except.map, reduceCtorEq, false_iff, not_and]
      exact fun hDir => absurd hDir hNot

/-! ## Removals -/

/-- Removing succeeds where a file is, and erases it. -/
theorem remove_eq_ok_iff {f g : Files} {p : Path} :
    f.remove p = .ok g ↔
      ∃ place content, f.locate p = .ok place ∧ f.get place = some (.file content) ∧
        g = f.erase place := by
  unfold remove
  constructor
  · intro h
    cases hPlace : f.locate p with
    | error fault => simp [hPlace, bind, Except.bind] at h
    | ok place =>
      simp only [hPlace, bind, Except.bind] at h
      split at h
      · contradiction
      · contradiction
      · rename_i content hGet
        cases h
        exact ⟨place, content, rfl, hGet, rfl⟩
  · rintro ⟨place, content, hPlace, hGet, rfl⟩
    simp [hPlace, hGet, bind, Except.bind, pure, Except.pure]

/-- Removing a file changes no directory. -/
theorem sameDirectories_erase {f : Files} {place : Place} (h : f.get place ≠ some .directory) :
    f.SameDirectories (f.erase place) := by
  have hPlace := ne_nil_of_get h
  refine ⟨⟨rfl, fun q hq => ?_⟩, ⟨rfl, fun q hq => ?_⟩⟩
  · rw [get_erase hPlace, if_neg]
    · exact hq
    · rintro rfl
      exact h hq
  · rw [get_erase hPlace] at hq
    split at hq
    · cases hq
    · exact hq

/-! ## Making directories -/

/-- Nothing but directories was added. -/
structure AddsDirectories (f g : Files) : Prop extends KeepsDirectories f g where
  files : ∀ place content, g.get place = some (.file content) ↔ f.get place = some (.file content)

theorem AddsDirectories.refl (f : Files) : f.AddsDirectories f :=
  ⟨KeepsDirectories.refl f, fun _ _ => Iff.rfl⟩

theorem AddsDirectories.trans {f g k : Files} (hfg : f.AddsDirectories g)
    (hgk : g.AddsDirectories k) : f.AddsDirectories k :=
  ⟨hfg.toKeepsDirectories.trans hgk.toKeepsDirectories, fun place content =>
    (hgk.files place content).trans (hfg.files place content)⟩

/-- A new directory hides nothing that was there. -/
theorem addsDirectories_put {f : Files} {place : Place} (h : f.get place = none) :
    f.AddsDirectories (f.put place .directory) := by
  have hPlace : place ≠ [] := ne_nil_of_get (by rw [h]; simp)
  refine ⟨⟨workingPlace_put f place .directory, fun q hq => ?_⟩, fun q content => ?_⟩
  · rw [get_put hPlace]
    split
    · rfl
    · exact hq
  · rw [get_put hPlace]
    split
    · rename_i hq
      subst hq
      simp [h]
    · rfl

/-- A directory is made where nothing was, below a directory. -/
theorem makeDirectory_eq_ok {f g : Files} {p : Path} (h : f.makeDirectory p = .ok g) :
    ∃ place, f.locate p = .ok place ∧ f.get place = none ∧ g = f.put place .directory := by
  unfold makeDirectory at h
  cases hPlace : f.locate p with
  | error fault => simp [hPlace, bind, Except.bind] at h
  | ok place =>
    simp only [hPlace, bind, Except.bind] at h
    split at h
    · contradiction
    · rename_i hFree
      cases h
      exact ⟨place, rfl, by simpa using hFree, rfl⟩

theorem leadsTo_put {f : Files} {p : Path} {place : Place} (hPlace : f.locate p = .ok place)
    (hNone : f.get place = none) : (f.put place .directory).LeadsTo p place := by
  refine ⟨locate_of_keeps (addsDirectories_put hNone).toKeepsDirectories hPlace, ?_⟩
  rw [get_put (ne_nil_of_get (by rw [hNone]; simp)), if_pos rfl]

/-- Making a directory changes nothing else, and the path leads to it. -/
theorem makeDirectory_spec {f g : Files} {p : Path} (h : f.makeDirectory p = .ok g) :
    f.AddsDirectories g ∧ ∃ place, g.LeadsTo p place := by
  obtain ⟨place, hPlace, hNone, rfl⟩ := makeDirectory_eq_ok h
  exact ⟨addsDirectories_put hNone, place, leadsTo_put hPlace hNone⟩

/-- What counts as a directory is led to by its path. -/
theorem leadsTo_of_isDirectory {f : Files} {p : Path} (h : f.isDirectory p = .ok true) :
    ∃ place, f.LeadsTo p place := by
  have hFind : f.find p = .ok .directory := by
    unfold isDirectory find? at h
    cases hFind : f.find p with
    | ok e =>
      simp only [hFind, Except.map, Except.ok.injEq, beq_iff_eq, Option.some.injEq] at h
      rw [h]
    | error fault =>
      rw [hFind] at h
      split at h <;> simp_all [Except.map]
  unfold find at hFind
  cases hPlace : f.locate p with
  | error fault => simp [hPlace, bind, Except.bind] at hFind
  | ok place =>
    simp only [hPlace, bind, Except.bind] at hFind
    split at hFind
    · rename_i e hGet
      cases hFind
      exact ⟨place, hPlace, hGet⟩
    · contradiction

/-- A fault is passed over only where the path already leads to a directory. -/
theorem unlessDirectory_spec {f g : Files} {p : Path} {fault : FileFault}
    (h : f.unlessDirectory p fault = .ok g) : g = f ∧ ∃ place, f.LeadsTo p place := by
  unfold unlessDirectory at h
  split at h
  · cases hDir : f.isDirectory p with
    | error other => simp [hDir, bind, Except.bind] at h
    | ok isDir =>
      simp only [hDir, bind, Except.bind] at h
      split at h
      · rename_i hTrue
        cases h
        exact ⟨rfl, leadsTo_of_isDirectory (by rw [hDir, hTrue])⟩
      · contradiction
  · contradiction

/-- What making a directory comes to once the attempt itself is settled. -/
theorem settle_spec {f g : Files} {p : Path} {fault? : Option FileFault}
    (h : makeAllReversed.settle f p (f.makeDirectory p) = (g, fault?)) :
    f.AddsDirectories g ∧ (fault? = none → ∃ place, g.LeadsTo p place) := by
  unfold makeAllReversed.settle at h
  split at h
  · rename_i made hMade
    cases h
    obtain ⟨hAdds, hLeads⟩ := makeDirectory_spec hMade
    exact ⟨hAdds, fun _ => hLeads⟩
  · cases h
    exact ⟨AddsDirectories.refl f, nofun⟩
  · split at h
    · rename_i there hThere
      cases h
      obtain ⟨rfl, hLeads⟩ := unlessDirectory_spec hThere
      exact ⟨AddsDirectories.refl _, fun _ => hLeads⟩
    · cases h
      exact ⟨AddsDirectories.refl f, nofun⟩

/-- No more parents are missing than the path has names. -/
theorem missing_le_length (f : Files) (root : String) (names : List String) :
    f.missing root names ≤ names.length := by
  induction names with
  | nil => exact Nat.le_refl 0
  | cons name above ih =>
    unfold missing
    split
    · exact Nat.succ_le_succ ih
    · exact Nat.zero_le _

/-- What holds of one attempt to make a directory, and is carried from the path above a path to
the path, holds of what making all directories of a path leaves, unless there are too many. -/
theorem makeDirectories_induction {f g : Files} {calls : Option Nat} {p : Path}
    {fault? : Option FileFault} {motive : Path → Files → Option FileFault → Prop}
    (h : f.makeDirectories calls p = (g, fault?))
    (hTooDeep : ¬ p.IsShallow calls → motive p f (some .tooDeep))
    (hDirect : ∀ p g fault?, makeAllReversed.settle f p (f.makeDirectory p) = (g, fault?) →
      motive p g fault?)
    (hStopped : ∀ (a p : Path) g fault, a.Begins p → motive a g (some fault) →
      motive p g (some fault))
    (hAfter : ∀ (a p : Path) g k fault?, a.Begins p → motive a g none →
      makeAllReversed.settle g p (g.makeDirectory p) = (k, fault?) → motive p k fault?) :
    motive p g fault? := by
  have hAll : ∀ (root : String) (names : List String) g fault?,
      f.makeAllReversed root names = (g, fault?) → motive ⟨root, names.reverse⟩ g fault? := by
    intro root names
    induction names with
    | nil => exact fun g fault? h => hDirect _ _ _ h
    | cons name above ih =>
      intro g fault? h
      have hBegins := Path.begins_reverse_cons root name above
      unfold makeAllReversed at h
      dsimp only at h
      split at h
      · -- The directory above is missing and is made first.
        split at h
        · rename_i fault hAbove
          cases h
          exact hStopped _ _ _ _ hBegins (ih _ _ hAbove)
        · rename_i made hAbove
          exact hAfter _ _ _ _ _ hBegins (ih _ _ hAbove) h
      · exact hDirect _ _ _ h
  unfold makeDirectories at h
  split at h
  · rename_i hDeep
    obtain ⟨n, rfl, hLess⟩ := (Option.any_eq_true _ _).1 hDeep
    have hLength := missing_le_length f p.root p.parts.reverse
    rw [List.length_reverse] at hLength
    cases h
    refine hTooDeep fun hShallow => ?_
    have hMost := hShallow n rfl
    exact absurd (of_decide_eq_true hLess) (by omega)
  · have hPath := hAll p.root p.parts.reverse g fault? h
    rwa [List.reverse_reverse] at hPath

/-- Making directories only adds some, also where it stops, and in the end leads to the last. -/
theorem makeDirectories_spec {f g : Files} {calls : Option Nat} {p : Path}
    {fault? : Option FileFault} (h : f.makeDirectories calls p = (g, fault?)) :
    f.AddsDirectories g ∧ (fault? = none → ∃ place, g.LeadsTo p place) := by
  refine makeDirectories_induction h (fun _ => ⟨AddsDirectories.refl f, nofun⟩)
    (fun p g fault? h => settle_spec h) (fun a p g fault _ ih => ⟨ih.1, nofun⟩)
    (fun a p g k fault? _ ih h => ?_)
  obtain ⟨hAdds, hLeads⟩ := settle_spec h
  exact ⟨ih.1.trans hAdds, hLeads⟩

end Files
end ViewAdapters
