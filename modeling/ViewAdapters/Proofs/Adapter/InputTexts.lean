import ViewAdapters.Proofs.Adapter.Parts
import ViewAdapters.Proofs.Text.Words

/-!
# Texts of the input

The texts that an adapter is made from, and the names that are derived from them by leaving out
an ending and changing a letter case.

* `ViewModel.not_mem_derivedNames`: an uncased character of a derived name is one of the texts.
* `PropertyView.batchNote_cases`: a note on batches holds nothing of the input but a number.
* `PropertyView.validator_mem_texts`: the method that validates a property is one of its texts.
-/

namespace ViewAdapters

/-- The text that a type is declared with, inside its layers. -/
def Descriptor.text : Descriptor → String
  | .primitive kind => kind
  | .nullable d => d.text
  | .collection d => d.text
  | .reference qualifiedName => qualifiedName
  | .foreign literal => literal

theorem Descriptor.text_withoutNullable (d : Descriptor) : d.withoutNullable.text = d.text := by
  induction d with
  | nullable d ih => exact ih
  | _ => rfl

def Property.texts (p : Property) : List String :=
  [p.name, p.type.text] ++ (p.element.map Descriptor.text).toList ++
  (p.typeOverride.bind (·.android)).toList ++ (p.typeOverride.bind (·.ios)).toList ++
  (p.validation.bind (·.validator)).toList ++ p.warning.toList

def Command.texts (c : Command) : List String :=
  [c.name] ++ (c.parameter.map Descriptor.text).toList ++ c.warning.toList

def ViewModel.texts (v : ViewModel) : List String :=
  [v.name, v.qualifiedName, v.originModule] ++ v.properties.flatMap Property.texts ++
    v.commands.flatMap Command.texts

/-- The texts that a backend is set up with: its package and its namespaces. -/
def Backend.texts (b : Backend) : List String :=
  b.package :: b.target.namespaces.flatMap fun e => [e.1, e.2]

/-- The names that are derived from a property's: the identifier and the setter. -/
def Property.derivedNames (p : Property) : List String :=
  let identifier := Text.decapitalize p.name
  [identifier, "update" ++ Text.capitalize identifier]

/-- The names that are derived for a command: the identifier, the accessor that tells whether it
can run, and the parameter. -/
def Command.derivedNames (c : Command) : List String :=
  let identifier := CommandView.identifierOf c.name
  [identifier, "can" ++ Text.capitalize identifier, CommandView.parameterName c.parameter]

def ViewModel.derivedNames (v : ViewModel) : List String :=
  v.properties.flatMap Property.derivedNames ++ v.commands.flatMap Command.derivedNames

/-! ## Derived names -/

section DerivedNames

variable {d : Char}

theorem Text.not_mem_of_forall_isAlpha (hd : isUncased d = true) {cs : List Char}
    (h : cs.all Char.isAlpha = true) : d ∉ cs :=
  fun hIn => ne_of_isAlpha hd (List.all_eq_true.1 h d hIn) rfl

theorem Property.not_mem_derivedNames (hd : Text.isUncased d = true) {p : Property}
    (h : d ∉ p.name.toList) : ∀ s ∈ p.derivedNames, d ∉ s.toList := by
  have hIdentifier := Text.not_mem_decapitalize hd h
  have hUpdate : d ∉ "update".toList := Text.not_mem_of_forall_isAlpha hd (by decide)
  simp only [derivedNames, List.forall_mem_cons, String.toList_append, List.mem_append, not_or]
  exact ⟨hIdentifier, ⟨hUpdate, Text.not_mem_capitalize hd hIdentifier⟩, by simp⟩

theorem Command.not_mem_identifier (hd : Text.isUncased d = true) {name : String}
    (h : d ∉ name.toList) : d ∉ (CommandView.identifierOf name).toList := by
  refine Text.not_mem_decapitalize hd ?_
  rw [String.toList_ofList]
  cases hStem : Text.stem? CommandView.nameEnding name.toList with
  | none => exact h
  | some stem =>
    rw [(Text.stem?_eq_some_iff.1 hStem).1, List.mem_append, not_or] at h
    exact h.1

theorem Command.not_mem_parameterName (hd : Text.isUncased d = true) {parameter : Option Descriptor}
    (h : ∀ e ∈ parameter, d ∉ e.text.toList) :
    d ∉ (CommandView.parameterName parameter).toList := by
  unfold CommandView.parameterName
  split
  · rename_i qualifiedName hReference
    obtain ⟨e, he, hSame⟩ := Option.map_eq_some_iff.1 hReference
    have hText : d ∉ qualifiedName.toList := by
      have hIn := h e he
      rwa [← e.text_withoutNullable, hSame] at hIn
    refine Text.not_mem_decapitalize hd fun hIn => hText ?_
    rw [Descriptor.simpleName, Text.lastSegment, String.toList_ofList] at hIn
    exact Text.mem_of_mem_lastSegment hIn
  · exact Text.not_mem_of_forall_isAlpha hd (by decide)

theorem Command.not_mem_derivedNames (hd : Text.isUncased d = true) {c : Command}
    (h : ∀ s ∈ c.texts, d ∉ s.toList) : ∀ s ∈ c.derivedNames, d ∉ s.toList := by
  simp only [texts, List.forall_mem_append, List.forall_mem_cons, Option.mem_toList] at h
  obtain ⟨⟨⟨hName, -⟩, hTypes⟩, -⟩ := h
  have hIdentifier := not_mem_identifier hd hName
  have hCan : d ∉ "can".toList := Text.not_mem_of_forall_isAlpha hd (by decide)
  have hParameter : d ∉ (CommandView.parameterName c.parameter).toList :=
    not_mem_parameterName hd fun e he => hTypes e.text (Option.mem_map_of_mem _ he)
  simp only [derivedNames, List.forall_mem_cons, String.toList_append, List.mem_append, not_or]
  exact ⟨hIdentifier, ⟨hCan, Text.not_mem_capitalize hd hIdentifier⟩, hParameter, by simp⟩

theorem ViewModel.not_mem_derivedNames (hd : Text.isUncased d = true) {v : ViewModel}
    (h : ∀ s ∈ v.texts, d ∉ s.toList) : ∀ s ∈ v.derivedNames, d ∉ s.toList := by
  simp only [texts, List.forall_mem_append, List.forall_mem_flatMap] at h
  obtain ⟨⟨-, hProperties⟩, hCommands⟩ := h
  refine List.forall_mem_append.2 ⟨List.forall_mem_flatMap.2 fun p hp => ?_,
    List.forall_mem_flatMap.2 fun c hc => ?_⟩
  · exact Property.not_mem_derivedNames hd (hProperties p hp p.name (by simp [Property.texts]))
  · exact Command.not_mem_derivedNames hd (hCommands c hc)

end DerivedNames

/-! ## Texts that views show -/

/-- A text of decimal digits. -/
def IsDigits (s : String) : Prop := ∀ c ∈ s.toList, c.isDigit = true

theorem isDigits_toDigits (n : Nat) : IsDigits (String.ofList (Nat.toDigits 10 n)) := by
  intro c hc
  rw [String.toList_ofList] at hc
  exact Nat.isDigit_of_mem_toDigits (by decide) (by decide) hc

theorem isDigits_padded (width n : Nat) : IsDigits (Calendar.padded width n) := by
  intro c hc
  rw [Calendar.padded, String.toList_ofList, List.mem_append] at hc
  rcases hc with hZero | hDigit
  · rw [(List.mem_replicate.1 hZero).2]
    decide
  · exact Nat.isDigit_of_mem_toDigits (by decide) (by decide) hDigit

theorem shown_eq_some {text : Option String} {s : String} (h : s ∈ shown text) : text = some s :=
  (Option.filter_eq_some_iff.1 h).1

/-- A note on batches tells their size as a numeral, or no size. -/
theorem PropertyView.batchNote_cases {p : Property} {note : Option String}
    (h : batchNoteOf p = .ok note) {s : String} (hs : s ∈ note) :
    s = "Element changes may arrive in batches." ∨
      ∃ n, s = "Element changes may arrive in batches of " ++ Text.numeral n ++ "." := by
  unfold batchNoteOf at h
  split at h
  · split at h
    · split at h
      · rename_i n _
        obtain ⟨numeral, hNumeral, rfl⟩ := map_eq_ok.1 h
        rw [(Text.numeral?_eq_ok.1 hNumeral).2] at hs
        exact .inr ⟨n, (Option.mem_some.1 hs).symm⟩
      · cases h
        exact .inl (Option.mem_some.1 hs).symm
    · cases h
      contradiction
  · cases h
    contradiction

theorem PropertyView.validator_mem_texts {p : Property} {s : String}
    (h : s ∈ (afterWriteOf p).validator?) : s ∈ p.texts := by
  unfold afterWriteOf at h
  split at h
  · contradiction
  · rename_i v hValidation
    split at h
    · split at h
      · rename_i validator hShown
        cases h
        simp [Property.texts, hValidation, shown_eq_some hShown]
      · contradiction
    · contradiction

end ViewAdapters
