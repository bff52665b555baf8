import ViewAdapters.Proofs.Metadata.LoadedTypes
import ViewAdapters.Proofs.Metadata.TypeGrammar

/-!
# Names of types of the source program

Such a name is what is left of a text that has no other form, whatever its characters are: it
can hold blanks, and angle brackets that are not closed. What is sure of it is that it is a part
of the text, trimmed and of no other form; in a text that the grammar spells it is a dotted name.
A text whose angle brackets are broken keeps them at its leaf, so that a scalar there has a kind
that no platform knows.

* `HasShape`: which text has which shape.
* `exists_core`: the part of a text that its leaf is read from.
* `reference_names`: the names at the leaves of types, and the texts with broken brackets.
-/

namespace ViewAdapters.TypeText

open Text (InAnyCase IsBlank)

/-! ## Angle brackets -/

/-- Each angle bracket is closed by one of its kind, and more than blanks stands between them. -/
inductive IsBracketed : List Char → Prop
  | nil : IsBracketed []
  | plain {c : Char} {r : List Char} (hc : c ≠ '<' ∧ c ≠ '>') (h : IsBracketed r) :
      IsBracketed (c :: r)
  | pair {inside r : List Char} (hSome : Text.trimChars inside ≠ [])
      (hInside : IsBracketed inside) (h : IsBracketed r) :
      IsBracketed ('<' :: (inside ++ '>' :: r))

namespace IsBracketed

variable {cs ds : List Char}

theorem append (h : IsBracketed cs) (hRest : IsBracketed ds) : IsBracketed (cs ++ ds) := by
  induction h with
  | nil => exact hRest
  | plain hc _ ih => exact .plain hc ih
  | pair hSome hInside _ _ ih =>
    rw [List.cons_append, List.append_assoc, List.cons_append]
    exact .pair hSome hInside ih

theorem of_plain (h : ∀ c ∈ cs, c ≠ '<' ∧ c ≠ '>') : IsBracketed cs := by
  induction cs with
  | nil => exact .nil
  | cons c r ih => exact .plain (h c (by simp)) (ih fun d hd => h d (by simp [hd]))

/-- Characters of a kind that no bracket is of. -/
theorem of_forall {p : Char → Bool} (hOpening : p '<' = false) (hClosing : p '>' = false)
    (h : ∀ c ∈ cs, p c = true) : IsBracketed cs := by
  refine of_plain fun c hc => ⟨?_, ?_⟩
  · rintro rfl
    exact absurd (h _ hc) (by simp [hOpening])
  · rintro rfl
    exact absurd (h _ hc) (by simp [hClosing])

theorem of_isBlank (h : IsBlank cs) : IsBracketed cs := of_forall (by decide) (by decide) h

theorem of_isNameChar (h : ∀ c ∈ cs, isNameChar c = true) : IsBracketed cs :=
  of_forall (by decide) (by decide) h

theorem of_trimChars (h : IsBracketed (Text.trimChars cs)) : IsBracketed cs := by
  obtain ⟨before, after, hBefore, hAfter, hSplit⟩ := Text.exists_blanks_trimChars cs
  rw [hSplit]
  exact (of_isBlank hBefore).append (h.append (of_isBlank hAfter))

theorem count_eq (h : IsBracketed cs) : cs.count '<' = cs.count '>' := by
  induction h with
  | nil => rfl
  | plain hc _ ih => simpa [List.count_cons, hc.1, hc.2] using ih
  | pair _ _ _ ihInside ih =>
    simp [List.count_append, ihInside, ih]
    omega

end IsBracketed

/-- A text with broken brackets has brackets. -/
theorem exists_bracket {cs : List Char} (h : ¬IsBracketed cs) : ∃ c ∈ cs, c = '<' ∨ c = '>' := by
  by_contra hNone
  apply h
  refine IsBracketed.of_plain fun c hc => ⟨?_, ?_⟩
  · intro hOpening
    exact hNone ⟨c, hc, .inl hOpening⟩
  · intro hClosing
    exact hNone ⟨c, hc, .inr hClosing⟩

/-! ## Shapes of texts -/

/-- Which text has which shape. -/
inductive HasShape : List Char → Shape → Prop
  | empty : HasShape [] .empty
  | optional (front : List Char) : HasShape (front ++ ['?']) (.optional front)
  | spelled {cs : List Char} {kind : String} (h : spelledKind? cs = some kind) :
      HasShape cs (.leaf (.primitive kind))
  | array (front : List Char) : HasShape (front ++ ['[', ']']) (.array front)
  | applied {name gap inside argument : List Char} {g : Generic} (hName : HeadsGeneric name)
      (hGap : IsBlank gap) (hArgument : argument? inside = some argument)
      (hGeneric : generic? name = some g) :
      HasShape (name ++ (gap ++ '<' :: (inside ++ ['>']))) (.applied g argument)
  | unknown {cs name argument : List Char} (hSplit : splitGeneric? cs = some (name, argument))
      (hGeneric : generic? name = none) : HasShape cs (.leaf (.primitive (String.ofList cs)))
  | reference {cs : List Char} (h : HasNoForm cs) :
      HasShape cs (.leaf (.reference (String.ofList cs)))

theorem hasShape_shape (cs : List Char) : HasShape cs (shape cs) := by
  unfold shape
  split
  · rename_i hEmpty
    rw [List.isEmpty_iff.1 hEmpty]
    exact .empty
  rename_i hSome
  split
  · rename_i front hFront
    rw [Text.dropEnding?_eq_some_iff.1 hFront]
    exact .optional front
  rename_i hNotOptional
  split
  · rename_i kind hKind
    exact .spelled hKind
  rename_i hNotSpelled
  split
  · rename_i front hFront
    rw [Text.dropEnding?_eq_some_iff.1 hFront]
    exact .array front
  rename_i hNotArray
  split
  · rename_i hNotGeneric
    obtain ⟨hMark, hScalar⟩ := spelledKind?_eq_none_iff.1 hNotSpelled
    refine .reference ⟨fun hNil => hSome (by simp [hNil]), fun front hEq => ?_, fun front hEq => ?_,
      hMark, hScalar, fun name gap inside hName hGap hArgument hEq => ?_⟩
    · rw [Text.dropEnding?_eq_some_iff.2 hEq] at hNotOptional
      contradiction
    · rw [Text.dropEnding?_eq_some_iff.2 hEq] at hNotArray
      contradiction
    · obtain ⟨argument, hArgument⟩ := Option.ne_none_iff_exists'.1 hArgument
      rw [splitGeneric?_eq_some_iff.2 ⟨gap, inside, hName, hGap, hArgument, hEq⟩] at hNotGeneric
      contradiction
  · rename_i name argument hSplit
    obtain ⟨gap, inside, hName, hGap, hArgument, hEq⟩ := splitGeneric?_eq_some_iff.1 hSplit
    cases hGeneric : generic? name with
    | some g =>
      rw [hEq]
      exact .applied hName hGap hArgument hGeneric
    | none => exact .unknown hSplit hGeneric

/-- The texts that are names of types of the source program. -/
theorem shape_eq_reference_iff {cs : List Char} {name : String} :
    shape cs = .leaf (.reference name) ↔ name = String.ofList cs ∧ HasNoForm cs := by
  constructor
  · intro h
    have hShape := hasShape_shape cs
    rw [h] at hShape
    cases hShape with
    | reference hNoForm => exact ⟨rfl, hNoForm⟩
  · rintro ⟨rfl, h⟩
    exact shape_of_hasNoForm h

/-! ## Kinds with brackets -/

/-- The kind behind a mark is all that stands there. -/
theorem exists_of_markedKind {cs : List Char} {kind : String} (h : markedKind? cs = some kind) :
    ∃ word back, cs = word ++ ':' :: back ∧ (∀ c ∈ word, isNameChar c = true) ∧
      kind.toList = Text.trimChars back := by
  unfold markedKind? at h
  split at h
  · rename_i hStarts
    obtain ⟨front, back, rfl, hMark⟩ :=
      (startsWithAnyCase_iff (by decide) (by decide)).1 hStarts
    obtain ⟨word, rfl, hWord⟩ := exists_word_of_mark hMark
    rw [dropWhile_of_word hWord] at h
    injection h with h
    refine ⟨word, back, by simp, hWord, ?_⟩
    rw [← h, String.toList_ofList]
    rfl
  · contradiction

/-- The brackets of a text stand in the kind that it gives. -/
theorem exists_bracket_of_primitive {cs : List Char} {kind : String}
    (h : shape cs = .leaf (.primitive kind)) (hBroken : ¬IsBracketed cs) :
    ∃ c ∈ kind.toList, c = '<' ∨ c = '>' := by
  have hShape := hasShape_shape cs
  rw [h] at hShape
  cases hShape with
  | unknown =>
    rw [String.toList_ofList]
    exact exists_bracket hBroken
  | spelled hSpelled =>
    rcases Option.or_eq_some_iff.1 hSpelled with hMarked | ⟨-, hNamed⟩
    · obtain ⟨word, back, rfl, hWord, hKind⟩ := exists_of_markedKind hMarked
      have hBack : ¬IsBracketed (Text.trimChars back) := by
        intro hTrim
        apply hBroken
        exact (IsBracketed.of_isNameChar hWord).append (.plain (by decide) hTrim.of_trimChars)
      rw [hKind]
      exact exists_bracket hBack
    · have hNames := namesScalar_iff.2 hNamed
      obtain ⟨c, hc, hBracket⟩ := exists_bracket hBroken
      rcases hBracket with rfl | rfl
      · exact absurd hc (hNames.not_mem rfl (by decide) (by decide))
      · exact absurd hc (hNames.not_mem rfl (by decide) (by decide))

/-- No platform knows a kind with a bracket. -/
theorem lower_not_mem_scalars {kind : String} (h : ∃ c ∈ kind.toList, c = '<' ∨ c = '>')
    (platform : Platform) : Text.lower kind ∉ (Target.scalars platform).map Prod.fst := by
  have hClear : ∀ name ∈ (Target.scalars platform).map Prod.fst, Text.IsClear name.toList := by
    cases platform <;> decide
  have hFree : ∀ name ∈ (Target.scalars platform).map Prod.fst,
      '<' ∉ name.toList ∧ '>' ∉ name.toList := by
    cases platform <;> decide
  intro hMem
  have hLower : (Text.lower kind).toList = Text.lowerAfter [] kind.toList := String.toList_ofList
  have hCase : InAnyCase (Text.lower kind).toList kind.toList :=
    Text.inAnyCase_of_lowerAfter (hClear _ hMem) hLower.symm
  obtain ⟨c, hc, rfl | rfl⟩ := h
  · exact (hFree _ hMem).1 (hCase.mem_of_toLower rfl hc)
  · exact (hFree _ hMem).2 (hCase.mem_of_toLower rfl hc)

/-! ## Cores of texts -/

/-- A part of a text that stands for its leaf: the broken brackets of the text are in it. -/
structure IsCore (core cs : List Char) : Prop where
  part : core <:+: cs
  trimmed : Text.trimChars core = core
  bracketed : IsBracketed core → IsBracketed cs

theorem isCore_trimChars (cs : List Char) : IsCore (Text.trimChars cs) cs := by
  obtain ⟨before, after, -, -, hSplit⟩ := Text.exists_blanks_trimChars cs
  exact ⟨⟨before, after, by rw [List.append_assoc, ← hSplit]⟩, Text.trimChars_idem cs,
    IsBracketed.of_trimChars⟩

theorem IsCore.within {core inner cs : List Char} (h : IsCore core inner) (hPart : inner <:+: cs)
    (hBracketed : IsBracketed inner → IsBracketed cs) : IsCore core cs :=
  ⟨h.part.trans hPart, h.trimmed, fun hCore => hBracketed (h.bracketed hCore)⟩

theorem trimChars_ne_nil_of_parseChars {cs : List Char} {r : Reading} (h : parseChars cs = .ok r) :
    Text.trimChars cs ≠ [] := by
  intro hNil
  rw [parse_eq, hNil] at h
  contradiction

theorem eq_trimChars_of_argument {inside argument : List Char}
    (h : argument? inside = some argument) (hSome : argument ≠ []) :
    argument = Text.trimChars inside := by
  unfold argument? at h
  split at h
  · split at h
    · cases h
      contradiction
    · contradiction
  · split at h
    · contradiction
    · cases h
      rfl

/-- The inner part of a text that is read. -/
theorem isCore_of_inner {cs inner core : List Char} {q : Reading}
    (h : (shape cs).inner? = some inner) (hRead : parseChars inner = .ok q)
    (hCore : IsCore core inner) : IsCore core cs := by
  have hShape := hasShape_shape cs
  generalize shape cs = s at h hShape
  cases hShape with
  | empty | spelled | unknown | reference => contradiction
  | optional front =>
    cases h
    refine hCore.within ⟨[], ['?'], rfl⟩ fun hInner => ?_
    exact hInner.append (.plain (by decide) .nil)
  | array front =>
    cases h
    refine hCore.within ⟨[], ['[', ']'], rfl⟩ fun hInner => ?_
    exact hInner.append (.plain (by decide) (.plain (by decide) .nil))
  | @applied name gap inside argument g hName hGap hArgument hGeneric =>
    cases h
    have hSome := trimChars_ne_nil_of_parseChars hRead
    have hNonempty : inner ≠ [] := by
      rintro rfl
      exact hSome rfl
    obtain rfl := eq_trimChars_of_argument hArgument hNonempty
    rw [Text.trimChars_idem] at hSome
    have hInside : IsCore core inside :=
      hCore.within (isCore_trimChars inside).part IsBracketed.of_trimChars
    refine hInside.within ⟨name ++ (gap ++ ['<']), ['>'], by simp⟩ fun hInner => ?_
    have hHead := IsBracketed.of_isNameChar hName.chars
    exact hHead.append ((IsBracketed.of_isBlank hGap).append (.pair hSome hInner .nil))

theorem leaf_of_read {s : Shape} {text inner : List Char} {read : Except Error Reading}
    {r : Reading} (hInner : s.inner? = some inner) (h : s.read text read = .ok r) :
    ∃ q, read = .ok q ∧ r.1.leaf = q.1.leaf := by
  cases s with
  | empty | leaf => contradiction
  | optional =>
    obtain ⟨d, hRead, rfl⟩ := Shape.read_optional.1 h
    exact ⟨_, hRead, rfl⟩
  | array =>
    obtain ⟨d, isObservable, hRead, rfl⟩ := Shape.read_array.1 h
    exact ⟨_, hRead, rfl⟩
  | applied g =>
    obtain ⟨d, isObservable, hRead, rfl⟩ := Shape.read_applied.1 h
    refine ⟨_, hRead, ?_⟩
    cases g <;> rfl

/-- The leaf of a type is read from a part of the text that has no inner part. -/
theorem exists_core {cs : List Char} {r : Reading} (h : parseChars cs = .ok r) :
    ∃ core, IsCore core cs ∧ shape core = .leaf r.1.leaf := by
  induction cs using parseChars.induct generalizing r with
  | case1 cs =>
    rename_i hNone
    change (shape (Text.trimChars cs)).inner? = none at hNone
    refine ⟨Text.trimChars cs, isCore_trimChars cs, ?_⟩
    rw [parse_eq] at h
    have hShape := hasShape_shape (Text.trimChars cs)
    generalize Text.trimChars cs = trimmed at h hNone hShape ⊢
    generalize shape trimmed = s at h hNone hShape ⊢
    cases hShape with
    | empty | optional | array | applied => contradiction
    | spelled | unknown | reference =>
      cases h
      rfl
  | case2 cs =>
    rename_i inner hSome ih
    rw [parse_eq, hSome] at h
    obtain ⟨q, hRead, hLeaf⟩ := leaf_of_read hSome h
    obtain ⟨core, hCore, hShape⟩ := ih hRead
    have hInner := isCore_of_inner hSome hRead hCore
    refine ⟨core, hInner.within (isCore_trimChars cs).part IsBracketed.of_trimChars, ?_⟩
    rw [hShape, hLeaf]

/-! ## Names at leaves -/

/-- The names in a text that the grammar spells are dotted. -/
theorem Spells.isDotted_leaf {heads : List Char → Prop} {cs : List Char} {d : Descriptor}
    (h : Spells heads cs d) {name : String} (hLeaf : d.leaf = .reference name) :
    IsDotted name.toList := by
  induction h with
  | scalar | marked => contradiction
  | reference hName =>
    cases hLeaf
    exact hName
  | optional _ ih | array _ _ _ ih | collection _ _ _ ih | nullable _ _ _ ih | around _ _ _ ih =>
    exact ih hLeaf

theorem IsDotted.not_mem_marks {cs : List Char} (h : IsDotted cs) {c : Char} (hc : c ∈ cs) :
    Text.isBlank c = false ∧ c ∉ ['<', '>', '?', '[', ']', ','] := by
  have hMarks : (['<', '>', '?', '[', ']', ','].all fun mark => !isNameChar mark) = true := by
    decide +kernel
  have hName := h.chars c hc
  refine ⟨not_isBlank_of_isNameChar hName, fun hMark => ?_⟩
  have hNot := List.all_eq_true.1 hMarks c hMark
  rw [hName] at hNot
  exact absurd hNot Bool.false_ne_true

theorem parse_eq_reference_iff {text name : String} :
    parse text = .ok (.reference name, false) ↔ name = Text.trim text ∧ HasNoForm name.toList := by
  have hTrim : ∀ name : String, name = Text.trim text ↔
      name = String.ofList (Text.trimChars text.toList) := fun _ => Iff.rfl
  rw [parse, parse_eq, hTrim]
  generalize Text.trimChars text.toList = trimmed
  constructor
  · intro h
    cases hShape : shape trimmed with
    | empty =>
      rw [hShape] at h
      contradiction
    | leaf d =>
      rw [hShape] at h
      cases h
      obtain ⟨rfl, hNoForm⟩ := shape_eq_reference_iff.1 hShape
      rw [String.toList_ofList]
      exact ⟨rfl, hNoForm⟩
    | optional =>
      rw [hShape, Shape.read_optional] at h
      obtain ⟨d, -, hRead⟩ := h
      cases hRead
    | array =>
      rw [hShape, Shape.read_array] at h
      obtain ⟨d, isObservable, -, hRead⟩ := h
      cases hRead
    | applied g =>
      rw [hShape, Shape.read_applied] at h
      obtain ⟨d, isObservable, -, hRead⟩ := h
      cases g <;> cases hRead
  · rintro ⟨rfl, hNoForm⟩
    rw [String.toList_ofList] at hNoForm
    rw [shape_of_hasNoForm hNoForm]
    rfl

/-! ## Blank arguments -/

theorem argument?_of_isBlank {inside : List Char} (h : IsBlank inside)
    (hSome : ∃ c ∈ inside, c ≠ '\n') : argument? inside = some [] := by
  have hTrim : Text.trimChars inside = [] := Text.trimChars_of_forall_blank h
  have hAny : inside.any (· ≠ '\n') = true := by simpa using hSome
  unfold argument?
  rw [hTrim, if_pos hAny]
  rfl

/-- A generic type with blanks for an argument is refused; one that is not known is a scalar. -/
theorem parse_of_blank_argument {text : String} {name gap inside : List Char}
    (hName : HeadsGeneric name) (hGap : IsBlank gap) (hInside : IsBlank inside)
    (hSome : ∃ c ∈ inside, c ≠ '\n')
    (hText : text.toList = name ++ (gap ++ '<' :: (inside ++ ['>']))) :
    parse text = if generic? name = none then .ok (.primitive text, false) else .error .empty := by
  have hShape := shape_of_argument hName hGap (argument?_of_isBlank hInside hSome)
  rw [parse, parse_eq, hText, trimChars_generic hName, hShape]
  cases generic? name with
  | none =>
    rw [← hText, String.ofList_toList]
    rfl
  | some g =>
    have hEmpty : parseChars [] = .error .empty := by
      rw [parse_eq]
      rfl
    show (Shape.applied g []).read _ (parseChars []) = _
    rw [hEmpty]
    cases g <;> rfl

/-! ## The names and the brackets of a text -/

/-- A name at the leaf of a type is a part of the text that has no other form, and the whole text
is a name exactly if it has none itself. In a text of the grammar the name has neither blanks nor
marks of types. A text with broken brackets that is read has them in the name at its leaf, or has
a scalar there that is found to have no counterpart on any platform. A generic type with blanks
for an argument is refused, or such a scalar. -/
theorem reference_names (text : String) :
    (∀ d isObservable name, parse text = .ok (d, isObservable) → d.leaf = .reference name →
      name.toList <:+: text.toList ∧ Text.trimChars name.toList = name.toList ∧
        HasNoForm name.toList) ∧
    (∀ name, parse text = .ok (.reference name, false) ↔
      name = Text.trim text ∧ HasNoForm name.toList) ∧
    (∀ d, Spells StartsInAscii text.toList d → parse text = .ok (d, false) ∧
      ∀ name, d.leaf = .reference name → ∀ c ∈ name.toList,
        Text.isBlank c = false ∧ c ∉ ['<', '>', '?', '[', ']', ',']) ∧
    (¬IsBracketed text.toList → ∀ d isObservable, parse text = .ok (d, isObservable) →
      (∃ name, d.leaf = .reference name ∧ ¬IsBracketed name.toList) ∨
      ∃ kind, d.leaf = .primitive kind ∧ ∀ (t : Target) (member : String), ∃ r findings,
        t.resolve none member d = .ok (r, findings) ∧
          Target.unmapped t.platform member kind ∈ findings) ∧
    ∀ name gap inside, HeadsGeneric name → IsBlank gap → IsBlank inside →
      (∃ c ∈ inside, c ≠ '\n') →
        text.toList = name ++ (gap ++ '<' :: (inside ++ ['>'])) → parse text =
          if generic? name = none then .ok (.primitive text, false) else .error .empty := by
  refine ⟨?_, fun name => parse_eq_reference_iff, ?_, ?_, ?_⟩
  · intro d isObservable name hRead hLeaf
    obtain ⟨core, hCore, hShape⟩ := exists_core hRead
    rw [hLeaf] at hShape
    obtain ⟨rfl, hNoForm⟩ := shape_eq_reference_iff.1 hShape
    rw [String.toList_ofList]
    exact ⟨hCore.part, hCore.trimmed, hNoForm⟩
  · intro d hSpells
    refine ⟨parseChars_of_spells hSpells, fun name hLeaf c hc => ?_⟩
    exact (hSpells.isDotted_leaf hLeaf).not_mem_marks hc
  · intro hBroken d isObservable hRead
    obtain ⟨core, hCore, hShape⟩ := exists_core hRead
    have hCoreBroken : ¬IsBracketed core := fun h => hBroken (hCore.bracketed h)
    have hType := isType_of_parseChars hRead
    rcases Descriptor.leaf_of_isType hType with ⟨kind, hLeaf⟩ | ⟨name, hLeaf⟩
    · right
      rw [hLeaf] at hShape
      have hUnknown := lower_not_mem_scalars (exists_bracket_of_primitive hShape hCoreBroken)
      refine ⟨kind, hLeaf, fun t member => ?_⟩
      have hExists : ∃ r, t.resolve none member d = .ok r := Target.exists_resolve_iff.2 hType
      obtain ⟨⟨r, findings⟩, hResolved⟩ := hExists
      refine ⟨r, findings, hResolved, (Target.mem_findings_of_resolve hResolved).2 ?_⟩
      exact ⟨rfl, kind, ⟨hLeaf, hUnknown t.platform⟩, rfl⟩
    · left
      rw [hLeaf] at hShape
      obtain ⟨rfl, -⟩ := shape_eq_reference_iff.1 hShape
      refine ⟨_, hLeaf, ?_⟩
      rwa [String.toList_ofList]
  · intro name gap inside hName hGap hInside hSome hText
    exact parse_of_blank_argument hName hGap hInside hSome hText

/-- A bracket that is not closed stays in a name, and one of blanks is refused. -/
theorem reference_names_list :
    ¬IsBracketed "Stop?<int".toList ∧
      (∃ d isObservable name, parse "Stop?<int" = .ok (d, isObservable) ∧
        d.leaf = .reference name ∧ ¬IsBracketed name.toList) ∧
      parse "list< >" = .error .empty := by
  have hBroken : ¬IsBracketed "Stop?<int".toList := fun h => absurd h.count_eq (by decide)
  have hShape : shape "Stop?<int".toList = .leaf (.reference "Stop?<int") := by decide
  have hRead : parse "Stop?<int" = .ok (.reference "Stop?<int", false) :=
    parse_eq_reference_iff.2 ⟨by decide, (shape_eq_reference_iff.1 hShape).2⟩
  have hBlank : IsBlank [' '] := List.all_eq_true.1 (by decide)
  have hName : HeadsGeneric "list".toList := ⟨by decide, List.all_eq_true.1 (by decide)⟩
  refine ⟨hBroken, ⟨_, _, "Stop?<int", hRead, rfl, ?_⟩, ?_⟩
  · have hEither := (reference_names "Stop?<int").2.2.2.1 hBroken _ _ hRead
    rcases hEither with ⟨name, hLeaf, hName⟩ | ⟨kind, hLeaf, -⟩
    · cases hLeaf
      exact hName
    · contradiction
  · have hNoGap : IsBlank [] := fun _ hc => absurd hc List.not_mem_nil
    exact (reference_names "list< >").2.2.2.2 "list".toList [] [' '] hName hNoGap hBlank
      ⟨' ', by simp, by decide⟩ rfl

/-- Blanks and a bracket that is not closed stand in names. -/
theorem broken_text_reads_name :
    parse "Order line" = .ok (.reference "Order line", false) ∧
      parse "List<int" = .ok (.reference "List<int", false) ∧ ¬IsBracketed "List<int".toList := by
  have hLine : shape "Order line".toList = .leaf (.reference "Order line") := by decide
  have hList : shape "List<int".toList = .leaf (.reference "List<int") := by decide
  refine ⟨?_, ?_, fun h => absurd h.count_eq (by decide)⟩
  · exact parse_eq_reference_iff.2 ⟨by decide, (shape_eq_reference_iff.1 hLine).2⟩
  · exact parse_eq_reference_iff.2 ⟨by decide, (shape_eq_reference_iff.1 hList).2⟩

end ViewAdapters.TypeText
