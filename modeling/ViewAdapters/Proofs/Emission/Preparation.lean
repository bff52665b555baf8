import ViewAdapters.Proofs.Emission.AdapterNames
import ViewAdapters.Proofs.Files.MadeDirectories

/-!
# Prepared directories

Before the first job of a run the output directory of every requested platform is
there, and no file in it is named as the adapters of that platform are. If the system
refuses something on the way, what is prepared up to then stays.

* `removeStale_spec`: taking away names from a directory takes away nothing else.
* `prepare_cases`: the ways in which the preparation of one directory ends.
* `prepareAll_cleans`: what preparing directories does, also if it stops on the way.
* `prepare_spec`, `prepareAll_spec`: what is left of the files once the directories
  are prepared.
-/

namespace ViewAdapters.Emission

/-- A place right in the output directory of an emitter, with a name that its adapters
can have. -/
def Emitter.Owns (e : Emitter) (root : Path) (f : Files) (q : Place) : Prop :=
  ∃ place name, f.locate (e.path root) = .ok place ∧ q = place ++ [name] ∧
    e.platform.Names name

/-- The output directories of the emitters are there. -/
def Ready (root : Path) (f : Files) (emitters : List Emitter) : Prop :=
  ∀ e ∈ emitters, ∃ place, f.LeadsTo (e.path root) place

theorem Emitter.owns_iff {e : Emitter} {root : Path} {f : Files} {place : Place}
    (h : f.LeadsTo (e.path root) place) {q : Place} :
    e.Owns root f q ↔ ∃ name, q = place ++ [name] ∧ e.platform.Names name := by
  constructor
  · rintro ⟨other, name, hOther, hq, hName⟩
    cases hOther.symm.trans h.locate
    exact ⟨name, hq, hName⟩
  · rintro ⟨name, hq, hName⟩
    exact ⟨place, name, h.locate, hq, hName⟩

/-- Once its directory is there, an emitter owns the same places in every later tree. -/
theorem Emitter.owns_of_keeps {e : Emitter} {root : Path} {f g : Files} {place : Place}
    (hKeeps : f.KeepsDirectories g) (h : f.LeadsTo (e.path root) place) (q : Place) :
    e.Owns root g q ↔ e.Owns root f q := by
  rw [Emitter.owns_iff h, Emitter.owns_iff (h.of_keeps hKeeps)]

theorem Ready.of_keeps {root : Path} {f g : Files} {emitters : List Emitter}
    (hKeeps : f.KeepsDirectories g) (h : Ready root f emitters) : Ready root g emitters := by
  intro e he
  obtain ⟨place, hLeads⟩ := h e he
  exact ⟨place, hLeads.of_keeps hKeeps⟩

/-- A name in a directory is removed at the place right below it, where a file was. -/
theorem remove_entry {d : Path} {place : Place} {f g : Files} {name : String}
    (hLeads : f.LeadsTo d place) (hUp : name ≠ Path.up) (h : f.remove (d.entry name) = .ok g) :
    ∃ content, f.get (place ++ [name]) = some (.file content) ∧ g = f.erase (place ++ [name]) := by
  obtain ⟨removed, content, hPlace, hGet, rfl⟩ := Files.remove_eq_ok_iff.1 h
  rw [Files.locate_entry hLeads hUp] at hPlace
  split at hPlace
  · contradiction
  · cases hPlace
    exact ⟨content, hGet, rfl⟩

/-- What is taken away by removing names from a directory, and that no name is left if all
could be removed. -/
theorem removeStale_spec {d : Path} {place : Place} {f : Files} {names : List String}
    (hLeads : f.LeadsTo d place) (hUp : ∀ name ∈ names, name ≠ Path.up) :
    f.SameDirectories (removeStale d f names).files ∧
      (∀ q, (removeStale d f names).files.get q = f.get q ∨
        (removeStale d f names).files.get q = none ∧ ∃ name ∈ names, q = place ++ [name]) ∧
      ((removeStale d f names).result = .ok () →
        ∀ name ∈ names, (removeStale d f names).files.get (place ++ [name]) = none) := by
  induction names generalizing f with
  | nil => exact ⟨Files.SameDirectories.refl f, fun q => .inl rfl, fun _ => nofun⟩
  | cons name rest ih =>
    rw [List.forall_mem_cons] at hUp
    unfold removeStale
    dsimp only
    split
    · exact ⟨Files.SameDirectories.refl f, fun q => .inl rfl, nofun⟩
    · rename_i less hLess
      dsimp only
      obtain ⟨content, hGet, rfl⟩ := remove_entry hLeads hUp.1 hLess
      have hNotDir : f.get (place ++ [name]) ≠ some .directory := by simp [hGet]
      have hErased := Files.get_erase (f := f) (Files.ne_nil_of_get hNotDir)
      have hSame := Files.sameDirectories_erase hNotDir
      obtain ⟨hRest, hRestGet, hRestGone⟩ := ih (hLeads.of_keeps hSame.1) hUp.2
      refine ⟨hSame.trans hRest, fun q => ?_, fun hOk other hOther => ?_⟩
      · rcases hRestGet q with hq | ⟨hq, other, hOther, hPlace⟩
        · rw [hq, hErased]
          split
          · rename_i hPlace
            exact .inr ⟨rfl, name, by simp, hPlace⟩
          · exact .inl rfl
        · exact .inr ⟨hq, other, List.mem_cons_of_mem _ hOther, hPlace⟩
      · rcases List.mem_cons.1 hOther with rfl | hOther
        · rcases hRestGet (place ++ [other]) with hq | ⟨hq, -⟩
          · rw [hq, hErased, if_pos rfl]
          · exact hq
        · exact hRestGone hOk other hOther

theorem mem_namesWithEnding {f : Files} {e : Emitter} {root : Path} {place : Place}
    (hLeads : f.LeadsTo (e.path root) place) {name : String} :
    name ∈ f.namesWithEnding (e.path root) e.platform.fileEnding ↔
      (f.get (place ++ [name])).isSome ∧ e.platform.Names name := by
  unfold Files.namesWithEnding Platform.Names
  rw [hLeads.locate]
  simp only [hLeads.get, if_true, List.mem_filter, Files.mem_names, List.isSuffixOf_iff_suffix]

/-- The directory of an emitter cannot be made, or it is made and names in it are taken away. -/
theorem prepare_cases (calls : Option Nat) (root : Path) (f : Files) (e : Emitter) :
    (∃ fault, f.makeDirectories calls (e.path root) = ((prepare calls root f e).files, some fault) ∧
      (prepare calls root f e).result = .error fault) ∨
    ∃ made place, f.makeDirectories calls (e.path root) = (made, none) ∧
      made.LeadsTo (e.path root) place ∧ made.SameDirectories (prepare calls root f e).files ∧
      (∀ q, (prepare calls root f e).files.get q = made.get q ∨
        (prepare calls root f e).files.get q = none ∧
          ∃ name, q = place ++ [name] ∧ e.platform.Names name) ∧
      ((prepare calls root f e).result = .ok () → ∀ name, e.platform.Names name →
        (prepare calls root f e).files.get (place ++ [name]) = none) := by
  cases hMade : f.makeDirectories calls (e.path root) with
  | mk made fault? =>
    cases fault? with
    | some fault =>
      refine .inl ⟨fault, ?_⟩
      unfold prepare
      simp [hMade]
    | none =>
      have hPrepare : prepare calls root f e = removeStale (e.path root) made
          (made.namesWithEnding (e.path root) e.platform.fileEnding) := by
        unfold prepare
        simp [hMade]
      obtain ⟨-, hDir⟩ := Files.makeDirectories_spec hMade
      obtain ⟨place, hLeads⟩ := hDir rfl
      have hMem : ∀ name,
          name ∈ made.namesWithEnding (e.path root) e.platform.fileEnding ↔
            (made.get (place ++ [name])).isSome ∧ e.platform.Names name :=
        fun name => mem_namesWithEnding hLeads
      obtain ⟨hSame, hGet, hGone⟩ := removeStale_spec hLeads
        fun name hn => ((hMem name).1 hn).2.ne_up
      rw [← hPrepare] at hSame hGet hGone
      refine .inr ⟨made, place, rfl, hLeads, hSame, fun q => ?_, fun hOk name hName => ?_⟩
      · rcases hGet q with hq | ⟨hq, name, hn, hPlace⟩
        · exact .inl hq
        · exact .inr ⟨hq, name, hPlace, ((hMem name).1 hn).2⟩
      · by_cases hThere : (made.get (place ++ [name])).isSome
        · exact hGone hOk name ((hMem name).2 ⟨hThere, hName⟩)
        · rcases hGet (place ++ [name]) with hq | ⟨hq, -⟩
          · rw [hq]
            simpa using hThere
          · exact hq

/-! ## What preparing does, as far as it comes -/

/-- What preparing the directories of emitters can do to the files. -/
structure Cleans (root : Path) (emitters : List Emitter) (f g : Files) : Prop where
  directories : f.KeepsDirectories g
  /-- No file is made or changed. -/
  kept : ∀ q content, g.get q = some (.file content) → f.get q = some (.file content)
  /-- A file that is gone was right in an output directory and named as the adapters there. -/
  gone : ∀ q content, f.get q = some (.file content) → g.get q = some (.file content) ∨
    ∃ e ∈ emitters, ∃ place name, g.LeadsTo (e.path root) place ∧ q = place ++ [name] ∧
      e.platform.Names name
  /-- A directory that was made is an output directory or on the way to one. -/
  made : ∀ q, g.get q = some .directory → f.get q = some .directory ∨
    ∃ e ∈ emitters, ∃ a : Path, a.Begins (e.path root) ∧ g.LeadsTo a q

theorem Cleans.refl (root : Path) (emitters : List Emitter) (f : Files) :
    Cleans root emitters f f :=
  ⟨.refl f, fun _ _ h => h, fun _ _ h => .inl h, fun _ h => .inl h⟩

theorem Cleans.mono {root : Path} {emitters more : List Emitter} {f g : Files}
    (h : Cleans root emitters f g) (hSubset : emitters ⊆ more) : Cleans root more f g where
  directories := h.directories
  kept := h.kept
  gone := fun q content hq =>
    (h.gone q content hq).imp_right fun ⟨e, he, hGone⟩ => ⟨e, hSubset he, hGone⟩
  made := fun q hq => (h.made q hq).imp_right fun ⟨e, he, hMade⟩ => ⟨e, hSubset he, hMade⟩

theorem Cleans.trans {root : Path} {emitters : List Emitter} {f g k : Files}
    (hfg : Cleans root emitters f g) (hgk : Cleans root emitters g k) :
    Cleans root emitters f k := by
  refine ⟨hfg.directories.trans hgk.directories, fun q content hq => ?_, fun q content hq => ?_,
    fun q hq => ?_⟩
  · exact hfg.kept q content (hgk.kept q content hq)
  · rcases hfg.gone q content hq with hStays | ⟨e, he, place, name, hLeads, hGone⟩
    · exact hgk.gone q content hStays
    · exact .inr ⟨e, he, place, name, hLeads.of_keeps hgk.directories, hGone⟩
  · rcases hgk.made q hq with hBefore | hMade
    · rcases hfg.made q hBefore with hOld | ⟨e, he, a, hBegins, hLeads⟩
      · exact .inl hOld
      · exact .inr ⟨e, he, a, hBegins, hLeads.of_keeps hgk.directories⟩
    · exact .inr hMade

theorem prepare_cleans (calls : Option Nat) (root : Path) (f : Files) (e : Emitter) :
    Cleans root [e] f (prepare calls root f e).files := by
  rcases prepare_cases calls root f e with ⟨fault, hMade, -⟩ |
    ⟨made, place, hMade, hLeads, hSame, hGet, -⟩
  · obtain ⟨hAdds, -⟩ := Files.makeDirectories_spec hMade
    refine ⟨hAdds.toKeepsDirectories, fun q content => (hAdds.files q content).1,
      fun q content hq => .inl ((hAdds.files q content).2 hq), fun q hq => ?_⟩
    exact (Files.makeDirectories_addsAlong hMade q hq).imp_right fun hNew => ⟨e, by simp, hNew⟩
  · obtain ⟨hAdds, -⟩ := Files.makeDirectories_spec hMade
    refine ⟨hAdds.toKeepsDirectories.trans hSame.1, fun q content hq => ?_,
      fun q content hq => ?_, fun q hq => ?_⟩
    · rcases hGet q with hEq | ⟨hNone, -⟩
      · exact (hAdds.files q content).1 (hEq ▸ hq)
      · rw [hNone] at hq
        contradiction
    · rcases hGet q with hEq | ⟨-, name, hPlace, hName⟩
      · rw [hEq]
        exact .inl ((hAdds.files q content).2 hq)
      · exact .inr ⟨e, by simp, place, name, hLeads.of_keeps hSame.1, hPlace, hName⟩
    · have hBefore := hSame.2.get q hq
      refine (Files.makeDirectories_addsAlong hMade q hBefore).imp_right fun hNew => ?_
      obtain ⟨a, hBegins, hLeadsNew⟩ := hNew
      exact ⟨e, by simp, a, hBegins, hLeadsNew.of_keeps hSame.1⟩

theorem prepareAll_cons_of_ok {calls : Option Nat} {root : Path} {f : Files} {e : Emitter}
    (rest : List Emitter) (h : (prepare calls root f e).result = .ok ()) :
    (prepareAll calls root f (e :: rest)).files =
        (prepareAll calls root (prepare calls root f e).files rest).files ∧
      (prepareAll calls root f (e :: rest)).result =
        (prepareAll calls root (prepare calls root f e).files rest).result := by
  simp [prepareAll, h]

/-- All directories are prepared if the first one is and then the others are. -/
theorem prepareAll_cons_eq_ok_iff {calls : Option Nat} {root : Path} {f : Files} {e : Emitter}
    {rest : List Emitter} :
    (prepareAll calls root f (e :: rest)).result = .ok () ↔
      (prepare calls root f e).result = .ok () ∧
        (prepareAll calls root (prepare calls root f e).files rest).result = .ok () := by
  cases h : (prepare calls root f e).result with
  | error fault => simp [prepareAll, h]
  | ok _ => simp [(prepareAll_cons_of_ok rest h).2]

theorem prepareAll_cleans (calls : Option Nat) (root : Path) (f : Files)
    (emitters : List Emitter) :
    Cleans root emitters f (prepareAll calls root f emitters).files := by
  induction emitters generalizing f with
  | nil => exact .refl root [] f
  | cons e rest ih =>
    have hFirst : Cleans root (e :: rest) f (prepare calls root f e).files :=
      (prepare_cleans calls root f e).mono (by simp)
    unfold prepareAll
    dsimp only
    split
    · exact hFirst
    · exact hFirst.trans ((ih _).mono (by simp))

/-! ## Directories that are prepared -/

theorem prepare_spec {calls : Option Nat} {root : Path} {f : Files} {e : Emitter}
    (h : (prepare calls root f e).result = .ok ()) :
    f.KeepsDirectories (prepare calls root f e).files ∧
      (∃ place, (prepare calls root f e).files.LeadsTo (e.path root) place) ∧
      ∀ q content, (prepare calls root f e).files.get q = some (.file content) ↔
        f.get q = some (.file content) ∧ ¬ e.Owns root (prepare calls root f e).files q := by
  have hCleans := prepare_cleans calls root f e
  rcases prepare_cases calls root f e with
    ⟨fault, -, hError⟩ | ⟨made, place, -, hLeads, hSame, -, hGone⟩
  · rw [h] at hError
    contradiction
  · have hAfter := hLeads.of_keeps hSame.1
    refine ⟨hCleans.directories, ⟨place, hAfter⟩, fun q content => ?_⟩
    rw [Emitter.owns_iff hAfter]
    constructor
    · intro hq
      refine ⟨hCleans.kept q content hq, ?_⟩
      rintro ⟨name, rfl, hName⟩
      rw [hGone h name hName] at hq
      contradiction
    · rintro ⟨hq, hOwn⟩
      rcases hCleans.gone q content hq with hStays | ⟨d, hd, there, name, hThere, hPlace, hName⟩
      · exact hStays
      · cases List.mem_singleton.1 hd
        cases hAfter.unique hThere
        exact absurd ⟨name, hPlace, hName⟩ hOwn

theorem prepareAll_spec {calls : Option Nat} {root : Path} {f : Files} {emitters : List Emitter}
    (h : (prepareAll calls root f emitters).result = .ok ()) :
    f.KeepsDirectories (prepareAll calls root f emitters).files ∧
      Ready root (prepareAll calls root f emitters).files emitters ∧
      ∀ q content, (prepareAll calls root f emitters).files.get q = some (.file content) ↔
        f.get q = some (.file content) ∧
          ∀ e ∈ emitters, ¬ e.Owns root (prepareAll calls root f emitters).files q := by
  induction emitters generalizing f with
  | nil => exact ⟨Files.KeepsDirectories.refl f, nofun, by simp [prepareAll]⟩
  | cons e rest ih =>
    obtain ⟨hFirst, hRest⟩ := prepareAll_cons_eq_ok_iff.1 h
    rw [(prepareAll_cons_of_ok rest hFirst).1]
    obtain ⟨hKeeps, ⟨place, hLeads⟩, hGet⟩ := prepare_spec hFirst
    obtain ⟨hKeepsRest, hReady, hGetRest⟩ := ih hRest
    refine ⟨hKeeps.trans hKeepsRest, ?_, fun q content => ?_⟩
    · intro other ho
      rcases List.mem_cons.1 ho with rfl | ho
      · exact ⟨place, hLeads.of_keeps hKeepsRest⟩
      · exact hReady other ho
    · rw [hGetRest q content, hGet q content, ← Emitter.owns_of_keeps hKeepsRest hLeads q,
        List.forall_mem_cons, and_assoc]

end ViewAdapters.Emission
