import ViewAdapters.Proofs.Metadata.TypeShapes

/-!
# The grammar of types

The texts that spell a type, given by rules: names of scalars in any case, kinds behind their
mark, dotted names, and a question mark, square brackets or a generic type around a spelling,
with blanks at every joint. Reading follows the rules, so that no text spells two types.

The rules are stated for any condition on the names of generic types: with one that starts
with an ASCII letter or an underscore every spelling is read, with names of other scripts not.

* `Spells`: the rules.
* `parseChars_of_spells`: a spelling is read as the type that it spells.
* `reads_of_spells`: that on texts, for observable collections too, and with no second type.
-/

namespace ViewAdapters.TypeText

open Text (InAnyCase IsClear)

/-- Word characters of any script with dots between them. -/
structure IsDotted (cs : List Char) : Prop where
  nonempty : cs ≠ []
  chars : ∀ c ∈ cs, isNameChar c = true

/-- Blanks without a line break. -/
def IsGap (cs : List Char) : Prop := ∀ c ∈ cs, Text.isBlank c = true ∧ c ≠ '\n'

/-- A dotted name whose last segment is one of the names of a generic type, in any case. -/
structure NamesGeneric (heads : List Char → Prop) (g : Generic) (name : List Char) : Prop where
  dotted : IsDotted name
  heads : heads name
  last : ∃ word, (word, g) ∈ genericNames ∧ InAnyCase word.toList (Text.lastSegmentChars name)

/-- The texts that spell a type, where `heads` tells the names that can head a generic type. -/
inductive Spells (heads : List Char → Prop) : List Char → Descriptor → Prop
  | scalar {cs : List Char} {kind : String} (h : NamesScalar cs kind) :
      Spells heads cs (.primitive kind)
  | marked {front : List Char} {kind : String} (hMark : InAnyCase scalarMark front)
      (hKind : IsKind kind) : Spells heads (front ++ kind.toList) (.primitive kind)
  | reference {name : String} (hName : IsDotted name.toList)
      (hScalar : ∀ kind, ¬NamesScalar name.toList kind) :
      Spells heads name.toList (.reference name)
  | optional {cs : List Char} {d : Descriptor} (h : Spells heads cs d) :
      Spells heads (cs ++ ['?']) (.nullable d)
  | array {cs : List Char} {d : Descriptor} (h : Spells heads cs d)
      (hMark : ¬IsMarked (Text.trimChars (cs ++ ['[', ']'])))
      (hScalar : ∀ kind, ¬NamesScalar (Text.trimChars (cs ++ ['[', ']'])) kind) :
      Spells heads (cs ++ ['[', ']']) (.collection d)
  | collection {name gap cs : List Char} {d : Descriptor}
      (hName : NamesGeneric heads .collection name) (hGap : IsGap gap) (h : Spells heads cs d) :
      Spells heads (name ++ (gap ++ '<' :: (cs ++ ['>']))) (.collection d)
  | nullable {name gap cs : List Char} {d : Descriptor}
      (hName : NamesGeneric heads .nullable name) (hGap : IsGap gap) (h : Spells heads cs d) :
      Spells heads (name ++ (gap ++ '<' :: (cs ++ ['>']))) (.nullable d)
  | around {before after cs : List Char} {d : Descriptor} (hBefore : IsGap before)
      (hAfter : IsGap after) (h : Spells heads cs d) : Spells heads (before ++ (cs ++ after)) d

/-- A name that starts with an ASCII letter or an underscore. -/
def StartsInAscii (name : List Char) : Prop := ∃ c r, name = c :: r ∧ isNameStart c = true

/-! ## Parts of spellings -/

theorem IsGap.isBlank {gap : List Char} (h : IsGap gap) : Text.IsBlank gap := fun c hc => (h c hc).1

theorem IsGap.noBreak {gap : List Char} (h : IsGap gap) : '\n' ∉ gap := fun hc => (h _ hc).2 rfl

theorem IsDotted.isTight {cs : List Char} (h : IsDotted cs) : IsTight cs :=
  isTight_of_forall h.nonempty fun c hc => not_isBlank_of_isNameChar (h.chars c hc)

/-- A dotted name holds no colon, so that it is not marked. -/
theorem IsDotted.spelledKind {cs : List Char} (h : IsDotted cs)
    (hScalar : ∀ kind, ¬NamesScalar cs kind) : spelledKind? cs = none := by
  refine spelledKind?_eq_none_iff.2 ⟨?_, hScalar⟩
  rintro ⟨front, back, rfl, hMark⟩
  obtain ⟨word, rfl, -⟩ := exists_word_of_mark hMark
  have hColon := h.chars ':' (by simp)
  revert hColon
  decide

namespace NamesGeneric

variable {heads : List Char → Prop} {g : Generic} {name : List Char}

theorem generic (h : NamesGeneric heads g name) : generic? name = some g := by
  have hClear : ∀ x ∈ genericNames, IsClear x.1.toList := by decide
  have hLookup : ∀ x ∈ genericNames, genericNames.lookup x.1 = some x.2 := by decide
  obtain ⟨word, hWord, hCase⟩ := h.last
  unfold generic?
  rw [Text.lowerAfter_of_inAnyCase hCase (hClear _ hWord), String.ofList_toList]
  exact hLookup _ hWord

theorem headsGeneric (h : NamesGeneric StartsInAscii g name) : HeadsGeneric name := by
  obtain ⟨c, r, rfl, hStart⟩ := h.heads
  exact ⟨hStart, h.dotted.chars⟩

end NamesGeneric

/-- What a generic type with a spelling denotes. -/
theorem parseChars_of_namesGeneric {g : Generic} {name gap cs : List Char} {d : Descriptor}
    (hName : NamesGeneric StartsInAscii g name) (hGap : IsGap gap)
    (hSome : Text.trimChars cs ≠ []) (hBreak : '\n' ∉ cs) (hRead : parseChars cs = .ok (d, false)) :
    parseChars (name ++ (gap ++ '<' :: (cs ++ ['>']))) = .ok (g.reading d) :=
  (parseChars_generic hName.headsGeneric hName.generic hGap.isBlank hSome hBreak).2
    ⟨d, false, hRead, rfl⟩

/-! ## Spellings as arguments -/

section Spells

variable {heads : List Char → Prop} {cs : List Char} {d : Descriptor}

theorem Spells.noBreak (h : Spells heads cs d) : '\n' ∉ cs := by
  have hGeneric : ∀ {g : Generic} {name gap cs : List Char}, NamesGeneric heads g name →
      IsGap gap → '\n' ∉ cs → '\n' ∉ name ++ (gap ++ '<' :: (cs ++ ['>'])) := by
    intro g name gap cs hName hGap ih
    simp [hName.dotted.isTight.noBreak, hGap.noBreak, ih]
  induction h with
  | scalar h => exact h.isTight.noBreak
  | marked hMark hKind => exact (isTight_marked hMark hKind).noBreak
  | reference hName => exact hName.isTight.noBreak
  | optional _ ih => simp [ih]
  | array _ _ _ ih => simp [ih]
  | collection hName hGap _ ih => exact hGeneric hName hGap ih
  | nullable hName hGap _ ih => exact hGeneric hName hGap ih
  | around hBefore hAfter _ ih => simp [hBefore.noBreak, hAfter.noBreak, ih]

theorem Spells.trim_ne_nil (h : Spells heads cs d) : Text.trimChars cs ≠ [] := by
  induction h with
  | scalar h => exact h.isTight.trim_ne_nil
  | marked hMark hKind => exact (isTight_marked hMark hKind).trim_ne_nil
  | reference hName => exact hName.isTight.trim_ne_nil
  | optional => exact Text.trimChars_ne_nil (c := '?') (by simp) rfl
  | array => exact Text.trimChars_ne_nil (c := ']') (by simp) rfl
  | collection => exact Text.trimChars_ne_nil (c := '>') (by simp) rfl
  | nullable => exact Text.trimChars_ne_nil (c := '>') (by simp) rfl
  | around hBefore hAfter _ ih => rwa [Text.trimChars_around hBefore.isBlank hAfter.isBlank]

end Spells

/-! ## Spellings are read -/

/-- A spelling is read as the type that it spells. -/
theorem parseChars_of_spells {cs : List Char} {d : Descriptor} (h : Spells StartsInAscii cs d) :
    parseChars cs = .ok (d, false) := by
  induction h with
  | scalar h =>
    rw [parse_eq, h.isTight.trim, shape_scalar h]
    rfl
  | marked hMark hKind =>
    rw [parse_eq, (isTight_marked hMark hKind).trim, shape_marked hMark hKind]
    rfl
  | reference hName hScalar =>
    have hType := isTypeName_of_isNameChar hName.nonempty hName.chars (hName.spelledKind hScalar)
    rw [parse_eq, hName.isTight.trim, shape_reference hType]
    rfl
  | optional h ih => exact (parseChars_optional h.trim_ne_nil).2 ⟨_, ih, rfl⟩
  | array h hMark hScalar ih =>
    have hSpelled := spelledKind?_eq_none_iff.2 ⟨hMark, hScalar⟩
    exact (parseChars_array h.trim_ne_nil hSpelled).2 ⟨_, _, ih, rfl⟩
  | collection hName hGap h ih =>
    exact parseChars_of_namesGeneric hName hGap h.trim_ne_nil h.noBreak ih
  | nullable hName hGap h ih =>
    exact parseChars_of_namesGeneric hName hGap h.trim_ne_nil h.noBreak ih
  | around hBefore hAfter _ ih =>
    exact (parseChars_congr (Text.trimChars_around hBefore.isBlank hAfter.isBlank _)).2 ih

/-- A spelling of a type is read as that type, in brackets behind the name of an observable
collection as one of it, and spells no other type. -/
theorem reads_of_spells {text : String} {d : Descriptor} (h : Spells StartsInAscii text.toList d) :
    parse text = .ok (d, false) ∧
      (∀ name gap : String, NamesGeneric StartsInAscii .observable name.toList →
        IsGap gap.toList →
        parse (name ++ gap ++ "<" ++ text ++ ">") = .ok (.collection d, true)) ∧
      ∀ e, Spells StartsInAscii text.toList e → e = d := by
  have hRead := parseChars_of_spells h
  refine ⟨hRead, fun name gap hName hGap => ?_, fun e he => ?_⟩
  · have hChars : (name ++ gap ++ "<" ++ text ++ ">").toList =
        name.toList ++ (gap.toList ++ '<' :: (text.toList ++ ['>'])) := by
      simp [String.toList_append]
    rw [parse, hChars]
    exact parseChars_of_namesGeneric hName hGap h.trim_ne_nil h.noBreak hRead
  · have hOther := parseChars_of_spells he
    rw [hRead] at hOther
    cases hOther
    rfl

/-- Blanks, letter case and namespaces at every joint of a nested type. -/
theorem reads_nested :
    parse " My.LIST < SYSTEM.Int32[]? > " =
        .ok (.collection (.nullable (.collection (.primitive "int32"))), false) ∧
      parse "Observable< My.LIST < SYSTEM.Int32[]? > >" =
        .ok (.collection (.collection (.nullable (.collection (.primitive "int32")))), true) := by
  have hGap : IsGap [' '] := by simp [IsGap]; decide
  have hInt : ("int32", "int32") ∈ scalarNames := by decide
  have hFront : InAnyCase scalarNamespace "SYSTEM.".toList := by decide
  have hCase : InAnyCase "int32".toList "Int32".toList := by decide
  have hElement : Spells StartsInAscii "SYSTEM.Int32".toList (.primitive "int32") :=
    .scalar (.qualified hFront hInt hCase)
  have hArray :
      Spells StartsInAscii "SYSTEM.Int32[]".toList (.collection (.primitive "int32")) := by
    have hNone : spelledKind? (Text.trimChars "SYSTEM.Int32[]".toList) = none := by decide
    exact .array hElement (spelledKind?_eq_none_iff.1 hNone).1 (spelledKind?_eq_none_iff.1 hNone).2
  have hName : NamesGeneric StartsInAscii .collection "My.LIST".toList :=
    ⟨⟨by decide, List.all_eq_true.1 (by decide)⟩, ⟨'M', _, rfl, rfl⟩, "list", by decide, by decide⟩
  have hList : Spells StartsInAscii " My.LIST < SYSTEM.Int32[]? > ".toList _ :=
    .around hGap hGap (.collection hName hGap (.around hGap hGap (.optional hArray)))
  obtain ⟨hRead, hObservable, -⟩ := reads_of_spells hList
  refine ⟨hRead, hObservable "Observable" "" ?_ (by simp [IsGap])⟩
  exact ⟨⟨by decide, List.all_eq_true.1 (by decide)⟩, ⟨'O', _, rfl, rfl⟩, "observable", by decide,
    by decide⟩

/-- A name of another script heads no generic type: with such names, a text that spells a
collection is read as the name of a type. -/
theorem accent_reads_name :
    Spells (fun _ => True) "É.List<int>".toList (.collection (.primitive "int32")) ∧
      parse "É.List<int>" = .ok (.reference "É.List<int>", false) := by
  have hName : ("int", "int32") ∈ scalarNames := by decide
  have hInt : Spells (fun _ => True) "int".toList (.primitive "int32") := .scalar (.plain hName rfl)
  have hList : NamesGeneric (fun _ => True) .collection "É.List".toList :=
    ⟨⟨by decide, List.all_eq_true.1 (by decide +kernel)⟩, trivial, "list", by decide, by decide⟩
  have hGap : IsGap [] := fun _ hc => absurd hc List.not_mem_nil
  refine ⟨.collection hList hGap hInt, ?_⟩
  have hShape : shape (Text.trimChars "É.List<int>".toList) =
      .leaf (.reference "É.List<int>") := by decide +kernel
  rw [parse, parse_eq, hShape]
  rfl

end ViewAdapters.TypeText
