import ViewAdapters.Emission.Run
import ViewAdapters.Proofs.Files.Directories

/-!
# Names of adapter files

The name of an adapter's file ends as all those of its platform do, and no name ends
as those of two platforms. Without a slash in the name of the view-model, the file is
right in the output directory.

* `fileEnding_suffix_fileName`: a file name has the ending of its platform.
* `platform_of_fileEnding`: the ending tells the platform.
* `Pair.path_eq_entry`: without slashes, an adapter is written right into the directory
  of its emitter.
* `Pair.exists_parts_path`: with or without slashes, the path of an adapter ends in a name
  that adapters of its platform can have.
-/

namespace ViewAdapters

/-! ## Names without slashes -/

/-- A text without a slash is one part. -/
theorem Path.splitParts_of_not_mem {current cs : List Char} (h : '/' ∉ cs) :
    splitParts current cs = splitParts.keep (cs.reverse ++ current) := by
  induction cs generalizing current with
  | nil => rfl
  | cons c rest ih =>
    have hc : c ≠ '/' := fun e => h (by simp [e])
    rw [splitParts, if_neg hc, ih fun hm => h (List.mem_cons_of_mem _ hm)]
    simp

theorem Path.parts_ofString (s : String) : (ofString s).parts = splitParts [] s.toList := rfl

/-- What follows the last slash belongs to the last component, if it is long enough to be one
of its own. -/
theorem Path.splitParts_append {ending : List Char} (hSlash : '/' ∉ ending)
    (hLong : 1 < ending.length) (current front : List Char) :
    ∃ parts last, splitParts current (front ++ ending) = parts ++ [last] ∧
      ending <:+ last.toList := by
  induction front generalizing current with
  | nil =>
    have hLength : (ending.reverse ++ current).length = ending.length + current.length := by simp
    have hNotNil : ending.reverse ++ current ≠ [] := by
      intro h
      rw [h, List.length_nil] at hLength
      omega
    have hNotDot : ending.reverse ++ current ≠ ['.'] := by
      intro h
      rw [h, List.length_singleton] at hLength
      omega
    refine ⟨[], String.ofList (ending.reverse ++ current).reverse, ?_, ?_⟩
    · rw [List.nil_append, splitParts_of_not_mem hSlash, splitParts.keep, if_neg]
      · rfl
      · simp [hNotNil, hNotDot]
    · rw [String.toList_ofList, List.reverse_append, List.reverse_reverse]
      exact List.suffix_append _ _
  | cons c rest ih =>
    rw [List.cons_append, splitParts]
    split
    · obtain ⟨parts, last, hParts, hLast⟩ := ih []
      refine ⟨splitParts.keep current ++ parts, last, ?_, hLast⟩
      rw [hParts, List.append_assoc]
    · exact ih (c :: current)

theorem Path.ofString_of_not_mem {name : String} (hSlash : '/' ∉ name.toList)
    (hEmpty : name ≠ "") (hDot : name ≠ ".") : Path.ofString name = ⟨"", [name]⟩ := by
  have hRoot : rootOf name.toList = "" := by
    unfold rootOf
    split
    · rename_i rest hEq
      exact absurd (by rw [hEq]; simp) hSlash
    · rename_i rest _ hEq
      exact absurd (by rw [hEq]; simp) hSlash
    · rename_i rest _ _ hEq
      exact absurd (by rw [hEq]; simp) hSlash
    · rfl
  have hNotNil : name.toList ≠ [] := by
    intro h
    exact hEmpty (String.toList_eq_nil_iff.1 h)
  have hNotDot : name.toList ≠ ['.'] := by
    intro h
    exact hDot (by rw [← String.ofList_toList (s := name), h])
  unfold ofString
  rw [hRoot, splitParts_of_not_mem hSlash, List.append_nil, splitParts.keep]
  simp [hNotNil, hNotDot, List.reverse_eq_iff]

theorem Path.child_of_not_mem {p : Path} {name : String} (hSlash : '/' ∉ name.toList)
    (hEmpty : name ≠ "") (hDot : name ≠ ".") : p.child name = p.entry name := by
  rw [child, ofString_of_not_mem hSlash hEmpty hDot, entry]

/-! ## Endings -/

/-- A name that a platform's adapters can have. -/
def Platform.Names (p : Platform) (name : String) : Prop := p.fileEnding.toList <:+ name.toList

/-- The file of an adapter has the ending of its platform. -/
theorem fileEnding_suffix_fileName (v : ViewModel) (p : Platform) : p.Names (v.fileName p) := by
  unfold Platform.Names Platform.fileEnding ViewModel.fileName ViewModel.adapterName
    ViewModel.adapterNameOf
  have hAdapter : ("Adapter.".toList : List Char) = "Adapter".toList ++ ".".toList := by decide
  simp only [String.toList_append, hAdapter, List.append_assoc]
  exact List.suffix_append _ _

theorem Emission.Pair.names_fileName (p : Pair) : p.2.platform.Names p.fileName :=
  fileEnding_suffix_fileName p.1 p.2.platform

theorem Platform.not_mem_fileEnding (p : Platform) : '/' ∉ p.fileEnding.toList := by
  cases p <;> decide

theorem Platform.length_fileEnding (p : Platform) : 10 ≤ p.fileEnding.toList.length := by
  cases p <;> decide

/-- A name with the ending of a platform is not a short one, such as `..`. -/
theorem Platform.Names.length_le {p : Platform} {name : String} (h : p.Names name) :
    10 ≤ name.toList.length := by
  have hLen := List.IsSuffix.length_le h
  have hEnding := p.length_fileEnding
  omega

theorem Platform.Names.ne_of_short {p : Platform} {name other : String} (h : p.Names name)
    (hShort : other.toList.length < 10) : name ≠ other := by
  rintro rfl
  have := h.length_le
  omega

theorem Platform.Names.ne_up {p : Platform} {name : String} (h : p.Names name) :
    name ≠ Path.up := h.ne_of_short (by decide)

/-! ## Adapters in their directories -/

/-- Without a slash in its name a view-model has none in that of its adapter. -/
theorem not_mem_adapterName {v : ViewModel} (h : '/' ∉ v.name.toList) :
    '/' ∉ v.adapterName.toList := by
  unfold ViewModel.adapterName ViewModel.adapterNameOf
  simp only [String.toList_append, String.toList_ofList, List.mem_append, not_or]
  refine ⟨?_, by decide⟩
  cases hStem : Text.stem? ViewModel.nameEnding v.name.toList with
  | none => exact h
  | some stem =>
    obtain ⟨hName, -⟩ := Text.stem?_eq_some_iff.1 hStem
    rw [hName] at h
    exact fun hm => h (List.mem_append_left _ hm)

theorem not_mem_fileName {v : ViewModel} (h : '/' ∉ v.name.toList) (p : Platform) :
    '/' ∉ (v.fileName p).toList := by
  unfold ViewModel.fileName
  simp only [String.toList_append, List.mem_append, not_or]
  refine ⟨⟨not_mem_adapterName h, by decide⟩, ?_⟩
  cases p <;> decide

/-- An adapter without a slash in its name is an entry of its directory. -/
theorem Emission.Pair.path_eq_entry {p : Pair} (h : '/' ∉ p.1.name.toList) (root : Path) :
    p.path root = (p.2.path root).entry p.fileName := by
  have hNames := p.names_fileName
  exact Path.child_of_not_mem (not_mem_fileName h p.2.platform)
    (hNames.ne_of_short (by decide)) (hNames.ne_of_short (by decide))

/-- Whatever slashes are in the name of a view-model, the last component of its adapter's path
is named as adapters of the platform are. -/
theorem Emission.Pair.exists_parts_path (p : Pair) (root : Path) :
    ∃ front name, (p.path root).parts = front ++ [name] ∧ p.2.platform.Names name := by
  obtain ⟨stem, hStem⟩ := p.names_fileName
  have hLong : 1 < p.2.platform.fileEnding.toList.length := by
    have hEnding := p.2.platform.length_fileEnding
    omega
  obtain ⟨parts, last, hParts, hLast⟩ :=
    Path.splitParts_append p.2.platform.not_mem_fileEnding hLong [] stem
  rw [hStem, ← Path.parts_ofString] at hParts
  have hName : p.2.platform.Names last := hLast
  unfold path Path.child Path.join
  split
  · exact ⟨parts, last, hParts, hName⟩
  · refine ⟨(p.2.path root).parts ++ parts, last, ?_, hName⟩
    rw [hParts, List.append_assoc]

end ViewAdapters
