import ViewAdapters.Proofs.Adapter.Parts

/-!
# Findings of adapters

The findings of an adapter are one for each scalar of a member without a counterpart on the
platform and one for each command that asks for two threads. A type is resolved layer by
layer, and that of an observable collection twice; still nothing is missed, nothing is found
twice and nothing else is found.

* `Lack.diagnostic_injective`: different lacks are different findings.
* `Target.mem_findings_of_resolve`: a resolved type has a finding exactly if its innermost
  scalar lacks a counterpart.
* `Assembly.mem_findings_of_propertyPart`, `Assembly.mem_findings_of_commandPart`: the
  findings of single members.
* `Backend.findsExactly_of_isTyped`: a view-model of types has an adapter unless a size of
  batches has no text, and the findings of the adapter are exactly its lacks.
-/

namespace ViewAdapters

/-! ## Lacks -/

/-- The innermost part of a descriptor is a scalar of a kind without a counterpart on a
platform. -/
def Descriptor.LacksScalar (d : Descriptor) (platform : Platform) (kind : String) : Prop :=
  d.leaf = .primitive kind ∧ Text.lower kind ∉ (Target.scalars platform).map Prod.fst

namespace Property

/-- The descriptor that a property's type comes from: an observable collection is a list of
its elements. -/
def shownType (p : Property) : Descriptor := p.element.getD p.type

/-- Neither an override nor a meaning of dates replaces a scalar without a counterpart. -/
def LacksScalar (p : Property) (platform : Platform) (kind : String) : Prop :=
  p.overrideFor platform = none ∧ p.dateSemantics = none ∧
    p.shownType.LacksScalar platform kind

end Property

namespace Command

def LacksScalar (c : Command) (platform : Platform) (kind : String) : Prop :=
  ∃ d, c.parameter = some d ∧ d.LacksScalar platform kind

def LacksThread (c : Command) : Prop := c.requiresMain = true ∧ c.requiresBackground = true

end Command

/-- What an adapter can lack of what the members of its view-model ask for. -/
inductive Lack where
  | scalar (member kind : String)
  | thread (member : String)

namespace Lack

def diagnostic (platform : Platform) : Lack → Diagnostic
  | .scalar member kind => Target.unmapped platform member kind
  | .thread member => Command.conflicting platform member

/-- Members that are not excluded for a platform have a lack there. -/
def Holds (platform : Platform) (v : ViewModel) : Lack → Prop
  | .scalar member kind =>
    (∃ p ∈ v.propertiesFor platform, p.name = member ∧ p.LacksScalar platform kind) ∨
      ∃ c ∈ v.commandsFor platform, c.name = member ∧ c.LacksScalar platform kind
  | .thread member => ∃ c ∈ v.commandsFor platform, c.name = member ∧ c.LacksThread

theorem codes_ne : Diagnostic.unmappedTypeCode ≠ Diagnostic.conflictingThreadingCode := by
  decide

theorem diagnostic_injective (platform : Platform) :
    Function.Injective (diagnostic platform) := by
  intro l l' h
  cases l with
  | scalar member kind =>
    cases l' with
    | scalar member' kind' =>
      have hMember : member = member' := congrArg Diagnostic.member h
      have hMessage := congrArg Diagnostic.message h
      have hKind : kind = kind' := by
        simpa [diagnostic, Target.unmapped, String.ext_iff] using hMessage
      rw [hMember, hKind]
    | thread member' => exact absurd (congrArg Diagnostic.code h) codes_ne
  | thread member =>
    cases l' with
    | scalar member' kind' => exact absurd (congrArg Diagnostic.code h) codes_ne.symm
    | thread member' => exact congrArg thread (congrArg Diagnostic.member h)

end Lack

/-- Findings are exactly the lacks of a view-model on a platform. -/
structure FindsExactly (platform : Platform) (v : ViewModel) (findings : List Diagnostic) :
    Prop where
  nodup : findings.Nodup
  diagnostic_mem_iff : ∀ l : Lack, l.diagnostic platform ∈ findings ↔ l.Holds platform v
  exists_lack : ∀ d ∈ findings, ∃ l : Lack, d = l.diagnostic platform

/-! ## Findings of types -/

/-- The leaf of a type is a scalar or a type of the source program. -/
theorem Descriptor.leaf_of_isType {d : Descriptor} (h : d.isType = true) :
    (∃ kind, d.leaf = .primitive kind) ∨ ∃ name, d.leaf = .reference name := by
  induction d with
  | nullable d ih => exact ih h
  | collection d ih => exact ih h
  | primitive kind => exact .inl ⟨kind, rfl⟩
  | reference name => exact .inr ⟨name, rfl⟩
  | foreign literal => contradiction

namespace Target

variable {t : Target} {semantics : Option DateSemantics} {member : String}

theorem scalar?_eq_none_iff {platform : Platform} {kind : String} :
    scalar? platform kind = none ↔ Text.lower kind ∉ (scalars platform).map Prod.fst := by
  unfold scalar?
  rw [List.lookup_eq_none_iff]
  simp only [List.mem_map, not_exists, not_and, bne_iff_ne, ne_eq]
  exact forall₂_congr fun e _ => not_congr eq_comm

/-- A scalar has a finding exactly if it falls back to the type that stands in for others. -/
theorem mem_findings_of_resolveScalar {kind : String} {platform : Platform} {x : Diagnostic} :
    x ∈ (resolveScalar platform semantics member kind).2 ↔
      semantics = none ∧ Text.lower kind ∉ (scalars platform).map Prod.fst ∧
        x = unmapped platform member kind := by
  rw [← scalar?_eq_none_iff]
  unfold resolveScalar
  cases semantics with
  | some semantics => simp
  | none =>
    cases scalar? platform kind with
    | some name => simp
    | none => simp

/-- Layers keep the findings of the type inside them. -/
theorem mem_findings_of_resolve {d : Descriptor} {r : Resolution}
    (h : t.resolve semantics member d = .ok r) {x : Diagnostic} :
    x ∈ r.2 ↔ semantics = none ∧
      ∃ kind, d.LacksScalar t.platform kind ∧ x = unmapped t.platform member kind := by
  induction d generalizing r with
  | primitive kind =>
    cases h
    rw [mem_findings_of_resolveScalar]
    refine and_congr_right fun _ => ?_
    constructor
    · rintro ⟨hKind, rfl⟩
      exact ⟨kind, ⟨rfl, hKind⟩, rfl⟩
    · rintro ⟨kind', ⟨hLeaf, hKind⟩, rfl⟩
      cases hLeaf
      exact ⟨hKind, rfl⟩
  | nullable d ih =>
    obtain ⟨inner, hInner, rfl⟩ := map_eq_ok.1 h
    change x ∈ inner.2 ↔ _
    exact ih hInner
  | collection d ih =>
    obtain ⟨inner, hInner, rfl⟩ := map_eq_ok.1 h
    change x ∈ inner.2 ↔ _
    exact ih hInner
  | reference qualifiedName =>
    cases h
    simp [Descriptor.LacksScalar, Descriptor.leaf]
  | foreign literal => cases h

theorem exists_resolve_iff {d : Descriptor} :
    (∃ r, t.resolve semantics member d = .ok r) ↔ d.isType = true := by
  induction d with
  | primitive kind => simp [resolve, Descriptor.isType, Descriptor.leaf]
  | nullable d ih => exact exists_map_iff.trans ih
  | collection d ih => exact exists_map_iff.trans ih
  | reference qualifiedName => simp [resolve, Descriptor.isType, Descriptor.leaf]
  | foreign literal => simp [resolve, Descriptor.isType, Descriptor.leaf]

/-! ## Findings of properties -/

variable {p : Property}

/-- An override is looked at before anything is resolved. -/
theorem mem_findings_of_resolveWithin {d : Descriptor} {r : Resolution}
    (h : t.resolveWithin p d = .ok r) {x : Diagnostic} :
    x ∈ r.2 ↔ p.overrideFor t.platform = none ∧ p.dateSemantics = none ∧
      ∃ kind, d.LacksScalar t.platform kind ∧ x = unmapped t.platform p.name kind := by
  obtain ⟨name, hOverride, rfl⟩ | ⟨hOverride, hResolved⟩ := resolveWithin_eq_ok.1 h
  · simp [hOverride]
  · rw [mem_findings_of_resolve hResolved]
    simp [hOverride]

theorem exists_resolveWithin_iff {d : Descriptor} :
    (∃ r, t.resolveWithin p d = .ok r) ↔ (p.overrideFor t.platform = none → d.isType = true) := by
  unfold resolveWithin
  cases p.overrideFor t.platform with
  | some name => simp
  | none =>
    refine exists_resolve_iff.trans ?_
    simp

/-- The type of a property is resolved from one descriptor, whether it is observable or not. -/
theorem exists_resolveWithin_of_propertyType {r : Resolution} (h : t.propertyType p = .ok r) :
    ∃ inner, t.resolveWithin p p.shownType = .ok inner ∧ r.2 = inner.2 := by
  unfold Property.shownType
  obtain ⟨hElement, hResolved⟩ | ⟨element, inner, hElement, hInner, rfl⟩ :=
    propertyType_eq_ok.1 h
  · rw [hElement]
    exact ⟨r, hResolved, rfl⟩
  · rw [hElement]
    exact ⟨inner, hInner, rfl⟩

theorem exists_propertyType_iff :
    (∃ r, t.propertyType p = .ok r) ↔ ∃ r, t.resolveWithin p p.shownType = .ok r := by
  unfold propertyType Property.shownType
  cases p.element with
  | none => rfl
  | some element => exact exists_map_iff

end Target

namespace Assembly

variable {t : Target} {p : Property} {c : Command}

/-- The elements of an observable collection are resolved like the collection itself. -/
theorem resolveWithin_of_viewedElement {element : Option Target.Resolution}
    (h : viewedElement t p = .ok element) :
    ∀ r ∈ element, t.resolveWithin p p.shownType = .ok r := by
  unfold Property.shownType
  obtain ⟨-, rfl⟩ | ⟨d, r, hElement, hResolved, rfl⟩ := viewedElement_eq_ok.1 h
  · simp
  · rw [hElement]
    rintro _ ⟨⟩
    exact hResolved

theorem exists_viewedElement (h : ∃ r, t.resolveWithin p p.shownType = .ok r) :
    ∃ element, viewedElement t p = .ok element := by
  obtain ⟨r, hResolved⟩ := h
  unfold Property.shownType at hResolved
  cases hElement : p.element with
  | none => exact ⟨none, viewedElement_eq_ok.2 (.inl ⟨hElement, rfl⟩)⟩
  | some d =>
    rw [hElement] at hResolved
    exact ⟨some r, viewedElement_eq_ok.2 (.inr ⟨d, r, hElement, hResolved, rfl⟩)⟩

/-- What is found in the elements once more is what was found before. -/
theorem mem_findings_of_propertyPart {part : PropertyPart} (h : propertyPart t p = .ok part)
    (x : Diagnostic) :
    x ∈ part.2.2 ↔ ∃ kind, p.LacksScalar t.platform kind ∧
      x = Target.unmapped t.platform p.name kind := by
  obtain ⟨r, element, view, hType, hElement, -, rfl⟩ := propertyPart_eq_ok.1 h
  obtain ⟨inner, hInner, hFindings⟩ := Target.exists_resolveWithin_of_propertyType hType
  have hAgain : ∀ x ∈ (element.map (·.2)).getD [], x ∈ inner.2 := by
    intro x hx
    cases element with
    | none => cases hx
    | some r' =>
      have hSame := (resolveWithin_of_viewedElement hElement r' rfl).symm.trans hInner
      cases hSame
      exact hx
  have hAll : x ∈ r.2 ++ (element.map (·.2)).getD [] ↔ x ∈ inner.2 := by
    rw [List.mem_append, hFindings]
    exact or_iff_left_of_imp (hAgain x)
  rw [hAll, Target.mem_findings_of_resolveWithin hInner]
  constructor
  · rintro ⟨hOverride, hDates, kind, hLacks, rfl⟩
    exact ⟨kind, ⟨hOverride, hDates, hLacks⟩, rfl⟩
  · rintro ⟨kind, ⟨hOverride, hDates, hLacks⟩, rfl⟩
    exact ⟨hOverride, hDates, kind, hLacks, rfl⟩

theorem exists_propertyPart_iff :
    (∃ part, propertyPart t p = .ok part) ↔
      (∃ r, t.resolveWithin p p.shownType = .ok r) ∧
        ∃ note, PropertyView.batchNoteOf p = .ok note := by
  constructor
  · rintro ⟨part, hPart⟩
    obtain ⟨r, element, view, hType, -, hView, -⟩ := propertyPart_eq_ok.1 hPart
    obtain ⟨note, hNote, -⟩ := map_eq_ok.1 hView
    exact ⟨Target.exists_propertyType_iff.1 ⟨r, hType⟩, note, hNote⟩
  · rintro ⟨hResolved, note, hNote⟩
    obtain ⟨r, hType⟩ := Target.exists_propertyType_iff.2 hResolved
    obtain ⟨element, hElement⟩ := exists_viewedElement hResolved
    obtain ⟨view, hView⟩ : ∃ view, PropertyView.of t.platform p r.1.name
        (element.map (·.1.name)) = .ok view := exists_map_iff.2 ⟨note, hNote⟩
    exact ⟨_, propertyPart_eq_ok.2 ⟨r, element, view, hType, hElement, hView, rfl⟩⟩

/-! ## Findings of commands -/

theorem mem_dispatchFinding {platform : Platform} {x : Diagnostic} :
    x ∈ (c.dispatchFinding platform).toList ↔
      c.LacksThread ∧ x = Command.conflicting platform c.name := by
  unfold Command.dispatchFinding Command.LacksThread
  rw [← Bool.and_eq_true]
  split <;> simp_all

theorem mem_findings_of_commandPart {part : CommandPart} (h : commandPart t c = .ok part)
    (x : Diagnostic) :
    x ∈ part.2.2 ↔
      (∃ kind, c.LacksScalar t.platform kind ∧ x = Target.unmapped t.platform c.name kind) ∨
        c.LacksThread ∧ x = Command.conflicting t.platform c.name := by
  obtain ⟨r, hType, rfl⟩ := commandPart_eq_ok.1 h
  rw [List.mem_append, mem_dispatchFinding]
  refine or_congr_left ?_
  unfold Command.LacksScalar
  obtain ⟨hParameter, rfl⟩ | ⟨d, resolved, hParameter, hResolved, rfl⟩ :=
    Target.parameterType_eq_ok.1 hType
  · simp [hParameter]
  · rw [hParameter]
    exact (Target.mem_findings_of_resolve hResolved).trans (by simp)

theorem exists_commandPart_iff :
    (∃ part, commandPart t c = .ok part) ↔ ∀ d, c.parameter = some d → d.isType = true := by
  have hParts : (∃ part, commandPart t c = .ok part) ↔ ∃ r, t.parameterType c = .ok r := by
    constructor
    · rintro ⟨part, hPart⟩
      obtain ⟨r, hType, -⟩ := commandPart_eq_ok.1 hPart
      exact ⟨r, hType⟩
    · rintro ⟨r, hType⟩
      exact ⟨_, commandPart_eq_ok.2 ⟨r, hType, rfl⟩⟩
  rw [hParts]
  unfold Target.parameterType
  cases c.parameter with
  | none => simp
  | some d =>
    refine (exists_map_iff.trans Target.exists_resolve_iff).trans ?_
    simp

/-! ## Findings of view-models -/

/-- The findings of an assembly are those of the lacks of its members. -/
theorem mem_diagnostics_of_make {package : String} {time : Calendar.UtcSecond} {v : ViewModel}
    {a : Assembly} (h : make t package time v = .ok a) (x : Diagnostic) :
    x ∈ a.diagnostics.items ↔
      ∃ l : Lack, l.Holds t.platform v ∧ x = l.diagnostic t.platform := by
  obtain ⟨properties, commands, hProperties, hCommands, rfl⟩ := make_eq_ok.1 h
  have hItems : x ∈ (ofParts t package time v properties commands).diagnostics.items ↔
      x ∈ properties.flatMap (·.2.2) ∨ x ∈ commands.flatMap (·.2.2) := by
    refine DiagnosticLog.mem_recordAll.trans ?_
    simp [DiagnosticLog.empty]
  rw [hItems, mem_flatMap_of_mapM hProperties fun _ _ => mem_findings_of_propertyPart,
    mem_flatMap_of_mapM hCommands fun _ _ => mem_findings_of_commandPart]
  constructor
  · rintro (⟨p, hp, kind, hLacks, rfl⟩ | ⟨c, hc, ⟨kind, hLacks, rfl⟩ | ⟨hLacks, rfl⟩⟩)
    · exact ⟨.scalar p.name kind, .inl ⟨p, hp, rfl, hLacks⟩, rfl⟩
    · exact ⟨.scalar c.name kind, .inr ⟨c, hc, rfl, hLacks⟩, rfl⟩
    · exact ⟨.thread c.name, ⟨c, hc, rfl, hLacks⟩, rfl⟩
  · rintro ⟨l, hHolds, rfl⟩
    cases l with
    | scalar member kind =>
      rcases hHolds with ⟨p, hp, rfl, hLacks⟩ | ⟨c, hc, rfl, hLacks⟩
      · exact .inl ⟨p, hp, kind, hLacks, rfl⟩
      · exact .inr ⟨c, hc, .inl ⟨kind, hLacks, rfl⟩⟩
    | thread member =>
      obtain ⟨c, hc, rfl, hLacks⟩ := hHolds
      exact .inr ⟨c, hc, .inr ⟨hLacks, rfl⟩⟩

end Assembly

namespace ViewModel

/-- All descriptors are types. -/
structure IsTyped (v : ViewModel) : Prop where
  property : ∀ p ∈ v.properties, p.type.isType = true ∧ ∀ d ∈ p.element, d.isType = true
  command : ∀ c ∈ v.commands, ∀ d ∈ c.parameter, d.isType = true

/-- What the type of a property comes from is a type. -/
theorem IsTyped.exists_resolveWithin {v : ViewModel} (h : v.IsTyped) (t : Target) :
    ∀ p ∈ v.propertiesFor t.platform, ∃ r, t.resolveWithin p p.shownType = .ok r := by
  intro p hp
  obtain ⟨hType, hElement⟩ := h.property p (ViewModel.mem_propertiesFor.1 hp).1
  refine Target.exists_resolveWithin_iff.2 fun _ => ?_
  unfold Property.shownType
  cases hShown : p.element with
  | none => exact hType
  | some d => exact hElement d hShown

theorem IsTyped.exists_commandPart {v : ViewModel} (h : v.IsTyped) (t : Target) :
    ∀ c ∈ v.commandsFor t.platform, ∃ part, Assembly.commandPart t c = .ok part := by
  intro c hc
  exact Assembly.exists_commandPart_iff.2 (h.command c (ViewModel.mem_commandsFor.1 hc).1)

/-- Every size of batches that an adapter tells has a text. -/
def HasShortBatches (v : ViewModel) (platform : Platform) : Prop :=
  ∀ p ∈ v.propertiesFor platform, ∀ b, p.batching = some b → b.isSupported = true →
    ∀ n, b.toldSize = some n → n.natAbs < Text.numeralBound

end ViewModel

namespace Backend

theorem findsExactly_of_generate {b : Backend} {v : ViewModel} {a : Adapter}
    (h : b.generate v = .ok a) : FindsExactly b.platform v a.diagnostics := by
  obtain ⟨assembly, text, hMake, -, rfl⟩ := generate_eq_ok.1 h
  have hFindings := Assembly.mem_diagnostics_of_make hMake
  refine ⟨assembly.diagnostics.nodup, fun l => ?_, fun d hd => ?_⟩
  · refine (hFindings _).trans ⟨?_, fun hHolds => ⟨l, hHolds, rfl⟩⟩
    rintro ⟨l', hHolds, hSame⟩
    rw [Lack.diagnostic_injective b.platform hSame]
    exact hHolds
  · obtain ⟨l, -, hd⟩ := (hFindings d).1 hd
    exact ⟨l, hd⟩

/-- Types never keep a standard backend from making an adapter. -/
theorem exists_generate_of_isTyped {b : Backend} (hStandard : b.templates = []) {v : ViewModel}
    (hTyped : v.IsTyped) :
    (∃ a, b.generate v = .ok a) ↔ v.HasShortBatches b.platform := by
  rw [exists_generate_iff hStandard, Assembly.exists_make_iff]
  constructor
  · rintro ⟨hParts, -⟩ p hp
    obtain ⟨-, hNote⟩ := Assembly.exists_propertyPart_iff.1 (hParts p hp)
    exact (PropertyView.batchNoteOf_eq_ok p).1 hNote
  · intro hShort
    refine ⟨fun p hp => ?_, hTyped.exists_commandPart b.target⟩
    have hNote := (PropertyView.batchNoteOf_eq_ok p).2 (hShort p hp)
    exact Assembly.exists_propertyPart_iff.2 ⟨hTyped.exists_resolveWithin b.target p hp, hNote⟩

/-- The adapter of a view-model of types fails only because of the sizes of batches, and its
findings are exactly the lacks of the view-model on the platform. -/
theorem findsExactly_of_isTyped {b : Backend} (hStandard : b.templates = []) {v : ViewModel}
    (hTyped : v.IsTyped) :
    ((∃ a, b.generate v = .ok a) ↔ v.HasShortBatches b.platform) ∧
      ∀ a, b.generate v = .ok a → FindsExactly b.platform v a.diagnostics :=
  ⟨exists_generate_of_isTyped hStandard hTyped, fun _ h => findsExactly_of_generate h⟩

/-- A view-model with lacks inside layers, in an observable collection and in a command, and
with scalars that are replaced or excluded. -/
def gaps : ViewModel where
  name := "GapsViewModel"
  qualifiedName := "App.GapsViewModel"
  originModule := "App"
  properties := [
    .plain "Amounts" (.nullable (.collection (.primitive "Money"))),
    { Property.plain "Items" (.collection (.primitive "Blob")) with
      element := some (.primitive "Blob") },
    { Property.plain "Due" (.primitive "Moment") with dateSemantics := some .dateOnly },
    { Property.plain "Place" (.primitive "Point") with
      typeOverride := some ⟨none, some "CLLocation"⟩ },
    { Property.plain "Draft" (.primitive "Money") with excluded := ⟨false, true⟩ }]
  commands := [{ Command.plain "Pay" with
    parameter := some (.primitive "Money"), threading := some ⟨true, true⟩ }]
  excluded := Exclusion.none

theorem isTyped_gaps : gaps.IsTyped := ⟨by decide, by decide⟩

theorem findsExactly_gaps :
    ∃ a, (standard .ios).generate gaps = .ok a ∧ FindsExactly .ios gaps a.diagnostics := by
  obtain ⟨hExists, hExactly⟩ := findsExactly_of_isTyped (b := standard .ios) rfl isTyped_gaps
  have hShort : gaps.HasShortBatches .ios := by
    intro p hp b hb
    have hNone : ∀ p ∈ gaps.propertiesFor .ios, p.batching = none := by decide
    rw [hNone p hp] at hb
    cases hb
  obtain ⟨a, ha⟩ := hExists.2 hShort
  exact ⟨a, ha, hExactly a ha⟩

end Backend
end ViewAdapters
