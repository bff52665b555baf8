import ViewAdapters.Proofs.Metadata.TypeShapes

/-!
# The two spellings of nullable types

A question mark behind a type and a generic type around it make the same nullable type of it,
unless it is an observable collection: the question mark is refused there, and the generic type
makes a nullable collection that is observable no more.

* `parse_optional_iff`, `parse_nullable_iff`: what the two spellings denote.
* `nullable_spellings`: where they agree, and what each does where they do not.
-/

namespace ViewAdapters.TypeText

variable {text : String}

theorem trimChars_toList_ne_nil (hSome : Text.trim text ≠ "") :
    Text.trimChars text.toList ≠ [] := by
  intro hNil
  apply hSome
  rw [Text.trim, hNil, String.ofList_nil]

theorem parse_optional_iff (hSome : Text.trim text ≠ "") {r : Reading} :
    parse (text ++ "?") = .ok r ↔ ∃ d, parse text = .ok (d, false) ∧ r = (.nullable d, false) := by
  rw [parse, String.toList_append]
  exact parseChars_optional (trimChars_toList_ne_nil hSome)

theorem parse_nullable_iff (hSome : Text.trim text ≠ "") (hBreak : '\n' ∉ text.toList)
    {r : Reading} : parse ("Nullable<" ++ text ++ ">") = .ok r ↔
      ∃ d isObservable, parse text = .ok (d, isObservable) ∧ r = (.nullable d, false) := by
  have hName : HeadsGeneric "Nullable".toList :=
    ⟨by decide, List.all_eq_true.1 (by decide)⟩
  have hGap : Text.IsBlank [] := fun _ hc => absurd hc List.not_mem_nil
  have hSplit : ("Nullable<" ++ text ++ ">").toList =
      "Nullable".toList ++ ([] ++ '<' :: (text.toList ++ ['>'])) := by
    simp [String.toList_append]
  rw [parse, hSplit]
  exact parseChars_generic hName rfl hGap (trimChars_toList_ne_nil hSome) hBreak

/-- The fault of a question mark behind an observable collection names the whole text. -/
theorem parse_optional_of_observable (hSome : Text.trim text ≠ "") {d : Descriptor}
    (h : parse text = .ok (d, true)) :
    parse (text ++ "?") = .error (.nullableObservable (text ++ "?")) := by
  have hInner : parseChars (Text.trimStartChars text.toList) = .ok (d, true) :=
    (parseChars_congr (Text.trimChars_trimStartChars text.toList)).2 h
  have hText : String.ofList (text.toList ++ ['?']) = text ++ "?" := by
    rw [String.ofList_append, String.ofList_toList]
  have hMark : (text ++ "?").toList = text.toList ++ ['?'] := String.toList_append
  rw [parse, hMark, parseChars_optional_eq (trimChars_toList_ne_nil hSome), hInner, ← hText]
  rfl

/-- The two spellings of a nullable type agree, whether it is read or refused, unless the type
is an observable collection. There the question mark is refused and the generic type is read. -/
theorem nullable_spellings (hSome : Text.trim text ≠ "") (hBreak : '\n' ∉ text.toList) :
    ((∀ d, parse text ≠ .ok (d, true)) →
      ∀ r, parse (text ++ "?") = .ok r ↔ parse ("Nullable<" ++ text ++ ">") = .ok r) ∧
    ∀ d, parse text = .ok (d, true) →
      parse (text ++ "?") = .error (.nullableObservable (text ++ "?")) ∧
        parse ("Nullable<" ++ text ++ ">") = .ok (.nullable d, false) := by
  constructor
  · intro hPlain r
    rw [parse_optional_iff hSome, parse_nullable_iff hSome hBreak]
    constructor
    · rintro ⟨d, hRead, rfl⟩
      exact ⟨d, false, hRead, rfl⟩
    · rintro ⟨d, isObservable, hRead, rfl⟩
      cases isObservable with
      | false => exact ⟨d, hRead, rfl⟩
      | true => exact absurd hRead (hPlain d)
  · intro d hRead
    exact ⟨parse_optional_of_observable hSome hRead,
      (parse_nullable_iff hSome hBreak).2 ⟨d, true, hRead, rfl⟩⟩

theorem parse_integers {g : Generic}
    (h : shape (Text.trimChars text.toList) = .applied g "int".toList) :
    parse text = .ok (g.reading (.primitive "int32")) := by
  have hInt : shape (Text.trimChars "int".toList) = .leaf (.primitive "int32") := by decide
  have hRead : parseChars "int".toList = .ok (.primitive "int32", false) := by
    rw [parse_eq, hInt]
    rfl
  rw [parse, parse_eq, h]
  exact Shape.read_applied.2 ⟨_, _, hRead, rfl⟩

/-- A list, for which the two spellings agree. -/
theorem nullable_spellings_list :
    parse "list<int>?" = .ok (.nullable (.collection (.primitive "int32")), false) ∧
      parse "Nullable<list<int>>" =
        .ok (.nullable (.collection (.primitive "int32")), false) := by
  have hRead : parse "list<int>" = .ok (.collection (.primitive "int32"), false) :=
    parse_integers (g := .collection) (by decide)
  have hPlain : ∀ d, parse "list<int>" ≠ .ok (d, true) := by
    intro d hOther
    cases hRead.symm.trans hOther
  have hOptional := (@parse_optional_iff "list<int>" (by decide) _).2 ⟨_, hRead, rfl⟩
  have hAgree := (@nullable_spellings "list<int>" (by decide) (by decide)).1 hPlain
  exact ⟨hOptional, (hAgree _).1 hOptional⟩

/-- An observable collection, for which they do not. -/
theorem observable_spellings_differ :
    parse "observable<int>?" = .error (.nullableObservable "observable<int>?") ∧
      parse "Nullable<observable<int>>" =
        .ok (.nullable (.collection (.primitive "int32")), false) := by
  have hRead : parse "observable<int>" = .ok (.collection (.primitive "int32"), true) :=
    parse_integers (g := .observable) (by decide)
  exact ⟨@parse_optional_of_observable "observable<int>" (by decide) _ hRead,
    (@parse_nullable_iff "observable<int>" (by decide) (by decide) _).2 ⟨_, _, hRead, rfl⟩⟩

end ViewAdapters.TypeText
