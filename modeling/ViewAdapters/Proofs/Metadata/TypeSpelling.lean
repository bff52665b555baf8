import ViewAdapters.Proofs.Metadata.TypeShapes

/-!
# Spelling of types

Every type whose leaf can be spelled has a text that is read as that type: scalars are
written as such, with their kinds behind a mark, nullable types with a question mark
and collections as generic types.

* `parseChars_spelling`: the spelling of a type is read as that type.
* `parseChars_observable`: that of an observable collection as one.
-/

namespace ViewAdapters

open TypeText

namespace TypeText

/-- The word that a generic type is written with. -/
def Generic.word : Generic → List Char
  | .observable => "observable".toList
  | .collection => "list".toList
  | .nullable => "nullable".toList

/-- A generic type with the text of its argument. -/
def Generic.apply (g : Generic) (argument : List Char) : List Char :=
  g.word ++ '<' :: (argument ++ ['>'])

end TypeText

namespace Descriptor

/-- The text of a type. -/
def spelling : Descriptor → List Char
  | .primitive kind => scalarMark ++ kind.toList
  | .nullable d => d.spelling ++ ['?']
  | .collection d => Generic.collection.apply d.spelling
  | .reference name => name.toList
  | .foreign literal => literal.toList

/-- Whether the leaf of a type is read from its own text. -/
def IsSpellable : Descriptor → Prop
  | .primitive kind => IsKind kind
  | .nullable d => d.IsSpellable
  | .collection d => d.IsSpellable
  | .reference name => IsTypeName name
  | .foreign _ => False

end Descriptor

namespace TypeText

theorem inAnyCase_scalarMark : Text.InAnyCase scalarMark scalarMark := by decide

theorem Generic.headsGeneric (g : Generic) : HeadsGeneric g.word := by
  cases g <;> exact ⟨by decide, List.all_eq_true.1 (by decide)⟩

theorem Generic.generic?_word (g : Generic) : generic? g.word = some g := by cases g <;> rfl

theorem IsTight.apply {argument : List Char} (h : IsTight argument) (g : Generic) :
    IsTight (g.apply argument) where
  first := by
    cases g
    · exact ⟨'o', _, rfl, rfl⟩
    · exact ⟨'l', _, rfl, rfl⟩
    · exact ⟨'n', _, rfl, rfl⟩
  last := ⟨g.word ++ '<' :: argument, '>', by simp [Generic.apply], rfl⟩
  noBreak := by
    have hWord : '\n' ∉ g.word := by cases g <;> decide
    simp [Generic.apply, hWord, h.noBreak]

theorem isTight_spelling {d : Descriptor} (h : d.IsSpellable) : IsTight d.spelling := by
  induction d with
  | primitive kind => exact isTight_marked inAnyCase_scalarMark h
  | nullable d ih =>
    obtain ⟨⟨c, r, hFirst, hBlank⟩, -, hBreak⟩ := ih h
    refine ⟨⟨c, r ++ ['?'], by simp [Descriptor.spelling, hFirst], hBlank⟩,
      ⟨d.spelling, '?', rfl, rfl⟩, ?_⟩
    simp [Descriptor.spelling, hBreak]
  | collection d ih => exact (ih h).apply .collection
  | reference name => exact IsTypeName.isTight h
  | foreign literal => exact h.elim

/-! ## Spellings are read again -/

theorem parseChars_apply (g : Generic) {argument : List Char} (h : IsTight argument)
    {d : Descriptor} (hRead : parseChars argument = .ok (d, false)) :
    parseChars (g.apply argument) = .ok (g.reading d) := by
  have hGap : Text.IsBlank [] := fun _ hc => absurd hc List.not_mem_nil
  exact (parseChars_generic g.headsGeneric g.generic?_word hGap h.trim_ne_nil h.noBreak).2
    ⟨d, false, hRead, rfl⟩

theorem parseChars_spelling {d : Descriptor} (h : d.IsSpellable) :
    parseChars d.spelling = .ok (d, false) := by
  induction d with
  | primitive kind =>
    rw [parse_eq, (isTight_spelling h).trim, Descriptor.spelling,
      shape_marked inAnyCase_scalarMark h]
    rfl
  | nullable d ih =>
    have hSome := IsTight.trim_ne_nil (isTight_spelling (d := d) h)
    exact (parseChars_optional hSome).2 ⟨d, ih h, rfl⟩
  | collection d ih => exact parseChars_apply .collection (isTight_spelling (d := d) h) (ih h)
  | reference name =>
    rw [parse_eq, (isTight_spelling h).trim, Descriptor.spelling, shape_reference h]
    rfl
  | foreign literal => exact h.elim

theorem parseChars_observable {d : Descriptor} (h : d.IsSpellable) :
    parseChars (Generic.observable.apply d.spelling) = .ok (.collection d, true) :=
  parseChars_apply .observable (isTight_spelling h) (parseChars_spelling h)

end TypeText
end ViewAdapters
