import ViewAdapters.Proofs.Files.MadeDirectories
import ViewAdapters.Proofs.Text.Words

/-!
# Names of a kind

Which faults an operation on a path can have depends on the code points of its names. A null
character in a name is a fault of its own, and so is a surrogate that stands for no byte. Where
names have neither, the fault of an operation is a refusal of the system, and directories that
are made have names of the same kind again.

* `textFault?_eq_none_iff`: the texts that can be paths.
* `Path.has_ofString`: a text of a kind gives a path of that kind.
* `locate_isWithin`, `remove_isWithin`, `write_isWithin`, `makeDirectories_isWithin`: how
  operations on paths of a kind fail.
* `makeDirectories_has`: the names of a tree stay of their kind.
-/

namespace ViewAdapters

open Text (codePoints isSurrogate)

/-- A name without a null character. -/
def IsPlainName (name : String) : Prop := '\x00' ∉ name.toList

/-- No name of a path has a null character. -/
structure Path.IsPlain (p : Path) : Prop where
  root : IsPlainName p.root
  parts : ∀ name ∈ p.parts, IsPlainName name

/-- No name in a tree has a null character. -/
structure Files.IsPlain (f : Files) : Prop where
  workingPlace : ∀ name ∈ f.workingPlace, IsPlainName name
  places : ∀ q, f.get q ≠ none → ∀ name ∈ q, IsPlainName name

/-- The system has refused an operation. -/
def FileFault.IsRefusal (fault : FileFault) : Prop := ∃ reason path, fault = .refused reason path

/-- All code points of a text are of a kind. -/
def HasPoints (kind : Nat → Prop) (s : String) : Prop := ∀ n ∈ codePoints s.toList, kind n

/-- All names of a path are of a kind, and what stands in front of them spoils none. -/
structure Path.Has (kind : Nat → Prop) (p : Path) : Prop where
  root : ∀ s, HasPoints kind s → HasPoints kind (p.root ++ s)
  parts : ∀ name ∈ p.parts, HasPoints kind name

/-- All names in a tree are of a kind. -/
structure Files.Has (kind : Nat → Prop) (f : Files) : Prop where
  workingPlace : ∀ name ∈ f.workingPlace, HasPoints kind name
  places : ∀ q, f.get q ≠ none → ∀ name ∈ q, HasPoints kind name

/-- The code points of a kind include those that paths are put together with. -/
structure IsPathKind (kind : Nat → Prop) : Prop where
  dot : kind '.'.toNat
  separator : kind '/'.toNat

/-- The faults of operations on paths of a kind. -/
inductive FileFault.IsWithin (kind : Nat → Prop) : FileFault → Prop
  | refused (reason : RefusalReason) (path : String) : IsWithin kind (.refused reason path)
  | nullInPath (h : kind 0) : IsWithin kind .nullInPath
  | unencodable (fault : Text.EncodeFault) {n : Nat} (hKind : kind n)
      (hSurrogate : isSurrogate n = true) (hByte : Files.isNameByte n = false) :
      IsWithin kind (.unencodable fault)

/-- Steps in a row have a fault of a kind where each of them has. -/
theorem FileFault.IsWithin.of_bind {kind : Nat → Prop} {α β : Type} {x : Except FileFault α}
    {next : α → Except FileFault β} {fault : FileFault} (h : x >>= next = .error fault)
    (hFirst : ∀ {other}, x = .error other → other.IsWithin kind)
    (hNext : ∀ a, next a = .error fault → fault.IsWithin kind) : fault.IsWithin kind := by
  cases x with
  | error other =>
    cases h
    exact hFirst rfl
  | ok a => exact hNext a h

/-! ## Kinds of texts -/

section Kinds

variable {kind : Nat → Prop}

/-- A separator keeps the characters on both sides apart. -/
theorem codePoints_separated (front rest : List Char) :
    codePoints (front ++ '/' :: rest) = codePoints front ++ '/'.toNat :: codePoints rest :=
  Text.codePoints_append_cons (by decide) (by decide) front rest

theorem HasPoints.separated (hKind : IsPathKind kind) {s t : String} (hs : HasPoints kind s)
    (ht : HasPoints kind t) : HasPoints kind (s ++ Path.separator ++ t) := by
  intro n hn
  have hChars : (s ++ Path.separator ++ t).toList = s.toList ++ '/' :: t.toList := by
    simp [String.toList_append, Path.separator]
  rw [hChars, codePoints_separated, List.mem_append, List.mem_cons] at hn
  rcases hn with hn | rfl | hn
  · exact hs n hn
  · exact hKind.separator
  · exact ht n hn

/-- Names of a kind joined by separators are a text of the kind. -/
theorem Path.hasPoints_intercalate (hKind : IsPathKind kind) {names : List String}
    (h : ∀ name ∈ names, HasPoints kind name) : HasPoints kind (separator.intercalate names) :=
  Text.intercalate_induction nofun (fun hs ht => hs.separated hKind ht) h

/-- The text of a path of a kind is of the kind. -/
theorem Path.Has.text (hKind : IsPathKind kind) {p : Path} (h : p.Has kind) :
    HasPoints kind p.text := by
  unfold Path.text
  split
  · intro n hn
    rw [List.mem_singleton.1 hn]
    exact hKind.dot
  · exact h.root _ (hasPoints_intercalate hKind h.parts)

namespace Path.Has

/-- The parents of a path of a kind are of the kind. -/
theorem of_begins {a p : Path} (h : p.Has kind) (hBegins : a.Begins p) : a.Has kind :=
  ⟨hBegins.root ▸ h.root, fun name hName => h.parts name (hBegins.parts.subset hName)⟩

theorem entry {p : Path} {name : String} (h : p.Has kind) (hName : HasPoints kind name) :
    (p.entry name).Has kind := by
  refine ⟨h.root, fun part hPart => ?_⟩
  rcases List.mem_append.1 hPart with hPart | hPart
  · exact h.parts part hPart
  · rw [List.mem_singleton.1 hPart]
    exact hName

theorem parent {p : Path} (h : p.Has kind) : p.parent.Has kind :=
  ⟨h.root, fun name hName => h.parts name (List.dropLast_subset p.parts hName)⟩

theorem join {p q : Path} (hp : p.Has kind) (hq : q.Has kind) : (p.join q).Has kind := by
  unfold Path.join
  split
  · exact hq
  · refine ⟨hp.root, fun name hName => ?_⟩
    exact (List.mem_append.1 hName).elim (hp.parts name) (hq.parts name)

end Path.Has

namespace Path

/-- The components of a text have no code points but those of the text. -/
theorem codePoints_subset_of_mem_splitParts {current cs : List Char} {name : String}
    (h : name ∈ splitParts current cs) :
    codePoints name.toList ⊆ codePoints (current.reverse ++ cs) := by
  have hKeep : ∀ {current : List Char}, name ∈ splitParts.keep current →
      name.toList = current.reverse := by
    intro current hName
    unfold splitParts.keep at hName
    split at hName
    · contradiction
    · rw [List.mem_singleton.1 hName, String.toList_ofList]
  induction cs generalizing current with
  | nil => rw [hKeep h, List.append_nil]; exact List.Subset.refl _
  | cons c cs ih =>
    unfold splitParts at h
    split at h
    · rename_i hSeparator
      subst hSeparator
      rw [codePoints_separated]
      rcases List.mem_append.1 h with h | h
      · rw [hKeep h]
        exact List.subset_append_left _ _
      · exact List.Subset.trans (ih h)
          (List.Subset.trans (List.subset_cons_self _ _) (List.subset_append_right _ _))
    · simpa using ih h

theorem has_of_root {p : Path} (hKind : IsPathKind kind) (hRoot : p.root ∈ ["", "/", "//"])
    (hParts : ∀ name ∈ p.parts, HasPoints kind name) : p.Has kind := by
  have hEmpty : HasPoints kind "" := nofun
  have hSlash : ∀ {s}, HasPoints kind s → HasPoints kind ("/" ++ s) := by
    intro s hs
    simpa [separator] using hEmpty.separated hKind hs
  refine ⟨fun s hs => ?_, hParts⟩
  simp only [List.mem_cons, List.not_mem_nil, or_false] at hRoot
  rcases hRoot with h | h | h <;> rw [h]
  · simpa using hs
  · exact hSlash hs
  · have hTwo : "//" ++ s = "/" ++ ("/" ++ s) := by
      rw [← String.append_assoc]
      rfl
    rw [hTwo]
    exact hSlash (hSlash hs)

/-- A path that is read from a text of a kind is of the kind. -/
theorem has_ofString (hKind : IsPathKind kind) {text : String} (h : HasPoints kind text) :
    (ofString text).Has kind := by
  refine has_of_root hKind ?_ fun name hName n hn => ?_
  · show rootOf text.toList ∈ _
    unfold rootOf
    split <;> simp
  · exact h n (codePoints_subset_of_mem_splitParts hName hn)

theorem Has.child (hKind : IsPathKind kind) {p : Path} {text : String} (hp : p.Has kind)
    (h : HasPoints kind text) : (p.child text).Has kind :=
  hp.join (has_ofString hKind h)

end Path

end Kinds

namespace Files

/-! ## Faults -/

section Faults

variable {kind : Nat → Prop} {f : Files} {p : Path} {fault : FileFault}

/-- The first bad code point of a text has a place in it. -/
theorem exists_of_encodeFault? {isAllowed : Nat → Bool} {start : Nat} {ns : List Nat}
    {other : Text.EncodeFault} (h : Text.encodeFault? isAllowed start ns = some other) :
    ∃ n ∈ ns, isSurrogate n = true ∧ isAllowed n = false := by
  have hNot : ¬ ∀ n ∈ ns, isSurrogate n = true → isAllowed n = true := by
    rw [← @Text.encodeFault?_eq_none_iff _ start, h]
    simp
  simpa using hNot

/-- The system refuses a text for a point that is in it. -/
theorem textFault?_isWithin {s : String} (hs : HasPoints kind s) (h : textFault? s = some fault) :
    fault.IsWithin kind := by
  unfold textFault? at h
  split at h
  · rename_i other hOther
    obtain ⟨n, hMem, hSurrogate, hByte⟩ := exists_of_encodeFault? hOther
    cases h
    exact .unencodable other (hs n hMem) hSurrogate hByte
  · split at h
    · rename_i hNull
      cases h
      exact .nullInPath (hs 0 (Text.zero_mem_codePoints_iff.2 hNull))
    · contradiction

theorem pathFault?_isWithin (hKind : IsPathKind kind) (hp : p.Has kind)
    (h : pathFault? p = some fault) : fault.IsWithin kind := by
  rcases Option.or_eq_some_iff.1 h with hText | ⟨-, hLong⟩
  · exact textFault?_isWithin (hp.text hKind) hText
  · split at hLong
    · cases hLong
      exact .refused _ _
    · contradiction

/-- Looking for a path fails within its kind. -/
theorem locate_isWithin (hKind : IsPathKind kind) (hp : p.Has kind)
    (h : f.locate p = .error fault) : fault.IsWithin kind := by
  unfold locate at h
  split at h
  · rename_i hPath
    cases h
    exact pathFault?_isWithin hKind hp hPath
  · cases hFollow : f.follow (f.start p) p.parts with
    | ok place =>
      rw [hFollow] at h
      contradiction
    | error reason =>
      rw [hFollow] at h
      cases h
      exact .refused _ _

theorem remove_isWithin (hKind : IsPathKind kind) (hp : p.Has kind)
    (h : f.remove p = .error fault) : fault.IsWithin kind := by
  refine .of_bind h (locate_isWithin hKind hp) fun _ hNext => ?_
  split at hNext
  · cases hNext
    exact .refused _ _
  · cases hNext
    exact .refused _ _
  · contradiction

/-- Writing a file fails within the kind of its path. -/
theorem write_isWithin (hKind : IsPathKind kind) (hp : p.Has kind) {content : ByteArray}
    (h : f.write p content = .error fault) : fault.IsWithin kind := by
  have hPlace : f.placeToWrite p = .error fault := by
    unfold write at h
    cases hPlace : f.placeToWrite p with
    | error other =>
      rw [hPlace] at h
      exact congrArg Except.error (Except.error.inj h)
    | ok place =>
      rw [hPlace] at h
      contradiction
  refine .of_bind hPlace (locate_isWithin hKind hp) fun _ hNext => ?_
  split at hNext
  · cases hNext
    exact .refused _ _
  · contradiction

/-- Making a directory fails within the kind of its path. -/
theorem makeDirectory_isWithin (hKind : IsPathKind kind) (hp : p.Has kind)
    (h : f.makeDirectory p = .error fault) : fault.IsWithin kind := by
  refine .of_bind h (locate_isWithin hKind hp) fun _ hNext => ?_
  split at hNext
  · cases hNext
    exact .refused _ _
  · contradiction

theorem isDirectory_isWithin (h : f.isDirectory p = .error fault) : fault.IsWithin kind := by
  unfold isDirectory find? at h
  split at h
  · contradiction
  · cases h
    exact .refused _ _
  · contradiction

theorem unlessDirectory_isWithin {other : FileFault} (hOther : other.IsWithin kind)
    (h : f.unlessDirectory p other = .error fault) : fault.IsWithin kind := by
  unfold unlessDirectory at h
  split at h
  · refine .of_bind h isDirectory_isWithin fun _ hNext => ?_
    split at hNext
    · contradiction
    · cases hNext
      exact hOther
  · cases h
    exact hOther

/-- A directory that could not be made is one already or ends in the same fault. -/
theorem settle_isWithin {g : Files} (hKind : IsPathKind kind) (hp : p.Has kind)
    (h : makeAllReversed.settle f p (f.makeDirectory p) = (g, some fault)) :
    fault.IsWithin kind := by
  cases hMade : f.makeDirectory p with
  | ok made =>
    rw [hMade] at h
    cases h
  | error other =>
    have hOther := makeDirectory_isWithin hKind hp hMade
    rw [hMade] at h
    unfold makeAllReversed.settle at h
    split at h
    · contradiction
    · cases h
      exact .refused _ _
    · rename_i hEq
      cases hEq
      split at h
      · cases h
      · rename_i hUnless
        cases h
        exact unlessDirectory_isWithin hOther hUnless

/-- Making directories fails like making one, or there are too many of them. -/
theorem makeDirectories_isWithin {g : Files} {calls : Option Nat} (hKind : IsPathKind kind)
    (hp : p.Has kind) (h : f.makeDirectories calls p = (g, some fault)) :
    fault.IsWithin kind ∨ fault = .tooDeep ∧ ¬ p.IsShallow calls := by
  refine makeDirectories_induction
    (motive := fun a _ fault? =>
      a.Has kind → ∀ fault, fault? = some fault →
        fault.IsWithin kind ∨ fault = .tooDeep ∧ ¬ p.IsShallow calls)
    h ?_ ?_ ?_ ?_ hp fault rfl
  · rintro hDeep - _ ⟨⟩
    exact .inr ⟨rfl, hDeep⟩
  · rintro p g fault? h hp fault rfl
    exact .inl (settle_isWithin hKind hp h)
  · intro a p g fault hBegins ih hp
    exact ih (hp.of_begins hBegins)
  · rintro a p g k fault? - - h hp fault rfl
    exact .inl (settle_isWithin hKind hp h)

end Faults

/-! ## Names that stay of their kind -/

section Made

variable {kind : Nat → Prop} {f g : Files} {p : Path}

theorem has_empty : (Files.empty []).Has kind where
  workingPlace := nofun
  places := by
    intro q hq name hName
    have hNil : q ≠ [] := by
      rintro rfl
      cases hName
    rw [Files.get, if_neg hNil] at hq
    exact absurd rfl hq

theorem Has.put (hf : f.Has kind) {place : Place}
    (hPlace : ∀ name ∈ place, HasPoints kind name) (e : Entry) : (f.put place e).Has kind := by
  by_cases hNil : place = []
  · have hSame : f.put place e = f := by rw [Files.put, dif_pos hNil]
    rw [hSame]
    exact hf
  · refine ⟨by rw [workingPlace_put]; exact hf.workingPlace, fun q hq => ?_⟩
    rw [get_put hNil] at hq
    split at hq
    · rename_i hSame
      rw [hSame]
      exact hPlace
    · exact hf.places q hq

/-- A tree with no more entries has names of the same kind. -/
theorem Has.of_subset (hf : f.Has kind) (hWorking : g.workingPlace = f.workingPlace)
    (h : ∀ q, g.get q ≠ none → f.get q ≠ none) : g.Has kind :=
  ⟨by rw [hWorking]; exact hf.workingPlace, fun q hq => hf.places q (h q hq)⟩

/-- Names of a kind lead to places of the kind. -/
theorem follow_has {place q : Place} {names : List String}
    (hPlace : ∀ name ∈ place, HasPoints kind name)
    (hNames : ∀ name ∈ names, HasPoints kind name) (h : f.follow place names = .ok q) :
    ∀ name ∈ q, HasPoints kind name := by
  induction names generalizing place with
  | nil =>
    cases h
    exact hPlace
  | cons name rest ih =>
    rw [List.forall_mem_cons] at hNames
    obtain ⟨-, ⟨-, hRest⟩ | ⟨-, -, hRest⟩⟩ := follow_cons_eq_ok_iff.1 h
    · exact ih (fun n hn => hPlace n (List.dropLast_subset place hn)) hNames.2 hRest
    · refine ih (fun n hn => ?_) hNames.2 hRest
      rcases List.mem_append.1 hn with hn | hn
      · exact hPlace n hn
      · rw [List.mem_singleton.1 hn]
        exact hNames.1

theorem locate_has (hf : f.Has kind) (hp : p.Has kind) {q : Place} (h : f.locate p = .ok q) :
    ∀ name ∈ q, HasPoints kind name := by
  obtain ⟨-, hFollow⟩ := locate_eq_ok_iff.1 h
  refine follow_has ?_ hp.parts hFollow
  unfold start
  split
  · exact nofun
  · exact hf.workingPlace

theorem makeDirectory_has (hf : f.Has kind) (hp : p.Has kind)
    (h : f.makeDirectory p = .ok g) : g.Has kind := by
  obtain ⟨place, hPlace, -, rfl⟩ := makeDirectory_eq_ok h
  exact hf.put (locate_has hf hp hPlace) _

theorem settle_has (hf : f.Has kind) (hp : p.Has kind) {fault? : Option FileFault}
    (h : makeAllReversed.settle f p (f.makeDirectory p) = (g, fault?)) : g.Has kind := by
  rcases settle_eq h with rfl | hMade
  · exact hf
  · exact makeDirectory_has hf hp hMade

/-- Directories of a kind keep the files of the kind, also where making them stops. -/
theorem makeDirectories_has {calls : Option Nat} (hf : f.Has kind) (hp : p.Has kind)
    {fault? : Option FileFault} (h : f.makeDirectories calls p = (g, fault?)) : g.Has kind := by
  refine makeDirectories_induction (motive := fun p g _ => p.Has kind → g.Has kind) h ?_ ?_ ?_ ?_
    hp
  · exact fun _ _ => hf
  · exact fun p g fault? h hp => settle_has hf hp h
  · exact fun a p g fault hBegins ih hp => ih (hp.of_begins hBegins)
  · exact fun a p g k fault? hBegins ih h hp => settle_has (ih (hp.of_begins hBegins)) hp h

end Made

end Files

/-! ## Names without null characters -/

/-- A code point other than that of the null character. -/
def IsPlainPoint (n : Nat) : Prop := n ≠ 0

instance : DecidablePred IsPlainPoint := fun n => inferInstanceAs (Decidable (n ≠ 0))

theorem isPathKind_isPlainPoint : IsPathKind IsPlainPoint := ⟨by decide, by decide⟩

/-- Without a NUL every code point of a text is plain. -/
theorem hasPoints_isPlainPoint_iff {s : String} : HasPoints IsPlainPoint s ↔ IsPlainName s := by
  unfold HasPoints IsPlainName IsPlainPoint
  rw [← Text.zero_mem_codePoints_iff]
  exact ⟨fun h hZero => h 0 hZero rfl, fun h n hn hZero => h (hZero ▸ hn)⟩

theorem Path.IsPlain.has {p : Path} (h : p.IsPlain) : p.Has IsPlainPoint where
  root := by
    intro s hs
    rw [hasPoints_isPlainPoint_iff] at hs ⊢
    unfold IsPlainName at hs ⊢
    rw [String.toList_append, List.mem_append, not_or]
    exact ⟨h.root, hs⟩
  parts := fun name hName => hasPoints_isPlainPoint_iff.2 (h.parts name hName)

theorem Files.IsPlain.has {f : Files} (h : f.IsPlain) : f.Has IsPlainPoint where
  workingPlace := fun name hName => hasPoints_isPlainPoint_iff.2 (h.workingPlace name hName)
  places := fun q hq name hName => hasPoints_isPlainPoint_iff.2 (h.places q hq name hName)

/-- Without null characters an operation is refused, or a surrogate has no bytes. -/
theorem FileFault.IsWithin.of_isPlainPoint {fault : FileFault} (h : fault.IsWithin IsPlainPoint) :
    fault.IsRefusal ∨ ∃ other, fault = .unencodable other := by
  cases h with
  | refused reason path => exact .inl ⟨reason, path, rfl⟩
  | nullInPath h => exact absurd rfl h
  | unencodable other => exact .inr ⟨other, rfl⟩

/-! ## Names that files can have -/

/-- A code point that a file name can have: no null character, and no surrogate but those that
stand for bytes. -/
def IsNamePoint (n : Nat) : Prop := n ≠ 0 ∧ (isSurrogate n = true → Files.isNameByte n = true)

instance : DecidablePred IsNamePoint := fun n =>
  inferInstanceAs (Decidable (n ≠ 0 ∧ (isSurrogate n = true → Files.isNameByte n = true)))

/-- A name that a file can have. -/
def IsNameable (name : String) : Prop := HasPoints IsNamePoint name

/-- All names of a path are those that files can have. -/
def Path.IsNameable (p : Path) : Prop := p.Has IsNamePoint

/-- All names in a tree are those that files can have. -/
def Files.IsNameable (f : Files) : Prop := f.Has IsNamePoint

theorem isPathKind_isNamePoint : IsPathKind IsNamePoint := ⟨by decide, by decide⟩

/-- The texts that can be paths are those of which every code point can be in a name. -/
theorem textFault?_eq_none_iff {s : String} : Files.textFault? s = none ↔ IsNameable s := by
  have hNull : '\x00' ∉ s.toList ↔ ∀ n ∈ codePoints s.toList, n ≠ 0 :=
    hasPoints_isPlainPoint_iff.symm
  unfold Files.textFault? IsNameable HasPoints IsNamePoint
  rw [forall₂_and, ← hNull, ← @Text.encodeFault?_eq_none_iff _ 0]
  cases Text.encodeFault? Files.isNameByte 0 (codePoints s.toList) <;> simp

/-- Where all names are those that files can have, an operation is refused. -/
theorem FileFault.IsWithin.of_isNamePoint {fault : FileFault} (h : fault.IsWithin IsNamePoint) :
    fault.IsRefusal := by
  cases h with
  | refused reason path => exact ⟨reason, path, rfl⟩
  | nullInPath h => exact absurd rfl h.1
  | unencodable other hKind hSurrogate hByte =>
    rw [hKind.2 hSurrogate] at hByte
    contradiction

end ViewAdapters
