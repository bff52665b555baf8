import ViewAdapters.Proofs.Adapter.PassedParameters
import ViewAdapters.Proofs.Text.LetterCase

/-!
# Names in wrappers

In the wrapper of a command a parameter hides a member of the adapter with the same name. So the
name of the parameter matters, which is that of a type of the source program: a type that is
called like the wrapped source hides the source, and the command is looked for in the argument.

* `CommandView.parameterName_eq_iff`: the types whose parameters have a given name.
* `CommandView.showsScope`: a wrapper declares its parameters and names what it calls.
* `Target.hasScope_of_commandPart`: the types whose parameters hide nothing in a wrapper.
-/

namespace ViewAdapters

/-! ## Names of parameters -/

/-- The spellings of a simple name that give a parameter with a name. -/
def spellings (name : String) : List String := [name, Text.capitalize name]

/-- A parameter has a name exactly if its type has a spelling of it, or if it is the name that
parameters of other types have. -/
theorem CommandView.parameterName_eq_iff {d : Descriptor} {name : String}
    (hSmall : Text.startsSmall name = true) :
    parameterName (some d) = name ↔
      (∃ q, d.withoutNullable = .reference q ∧ Descriptor.simpleName q ∈ spellings name) ∨
        (name = "value" ∧ ∀ q, d.withoutNullable ≠ .reference q) := by
  unfold parameterName
  rw [Option.map_some]
  split
  · rename_i q hReference
    rw [Option.some.injEq] at hReference
    rw [Text.decapitalize_eq_iff hSmall]
    simp [hReference, spellings]
  · rename_i hOther
    have hNone : ∀ q, d.withoutNullable ≠ .reference q := fun q h => hOther q (congrArg some h)
    simp [hNone, eq_comm]

/-! ## Scopes -/

/-- The name that the wrapped view-model has in an adapter. -/
def sourceName : String := "source"

namespace CommandView

/-- The name of the function that a result is reported to, if there is one. -/
def reportNames (platform : Platform) (view : CommandView) : List String :=
  if view.reports then [(completion platform).name] else []

/-- The names that mean something in a wrapper. -/
def scaffoldNames (platform : Platform) (view : CommandView) : List String :=
  sourceName :: view.reportNames platform

/-- All names in a wrapper keep their meaning: its parameters are told apart by their names, and
none of them hides the source. -/
structure CapturesNothing (platform : Platform) (view : CommandView) : Prop where
  nodup : ((view.formals platform).map Formal.name).Nodup
  source : sourceName ∉ (view.formals platform).map Formal.name

section Scopes

variable {platform : Platform} {view : CommandView}

theorem map_name_formals :
    (view.formals platform).map Formal.name =
      (view.parameter.map (·.1)).toList ++ view.reportNames platform := by
  unfold formals reportNames
  cases view.parameter <;> cases view.reports <;> rfl

theorem nodup_reportNames : (view.reportNames platform).Nodup := by
  unfold reportNames
  cases view.reports
  · exact List.nodup_nil
  · exact List.nodup_singleton _

theorem sourceName_not_mem : sourceName ∉ view.reportNames platform := by
  unfold reportNames
  cases view.reports <;> cases platform <;> decide

/-- Nothing is captured exactly if the parameter that is shown has none of the other names. -/
theorem capturesNothing_iff_not_mem :
    view.CapturesNothing platform ↔
      ∀ p, view.parameter = some p → p.1 ∉ view.scaffoldNames platform := by
  have hNodup := @nodup_reportNames platform view
  have hSource := @sourceName_not_mem platform view
  cases hShown : view.parameter with
  | none =>
    have hNames : (view.formals platform).map Formal.name = view.reportNames platform := by
      rw [map_name_formals, hShown, Option.map_none, Option.toList_none, List.nil_append]
    exact ⟨fun _ => nofun, fun _ => ⟨hNames ▸ hNodup, hNames ▸ hSource⟩⟩
  | some p =>
    have hNames : (view.formals platform).map Formal.name =
        p.1 :: view.reportNames platform := by
      rw [map_name_formals, hShown, Option.map_some, Option.toList_some, List.singleton_append]
    constructor
    · rintro ⟨hDistinct, hHidden⟩ _ ⟨⟩ hIn
      rw [hNames] at hDistinct hHidden
      rcases List.mem_cons.1 hIn with hSame | hReport
      · exact hHidden (hSame ▸ List.mem_cons_self)
      · exact (List.nodup_cons.1 hDistinct).1 hReport
    · intro h
      have hOther := h p rfl
      rw [scaffoldNames, List.mem_cons, not_or] at hOther
      refine ⟨hNames ▸ List.nodup_cons.2 ⟨hOther.2, hNodup⟩, ?_⟩
      rw [hNames, List.mem_cons, not_or]
      exact ⟨Ne.symm hOther.1, hSource⟩

end Scopes

/-! ## Scopes in texts -/

/-- Lines with a function that declares the parameters and with a body that names the source and,
where the result is reported, the function for it. -/
structure ShowsScope (platform : Platform) (view : CommandView) (lines : List String) : Prop where
  declares : ∃ line ∈ lines, ("(" ++ view.formalsText platform ++ ")").toList <:+: line.toList
  calls : ∃ line ∈ lines,
    (sourceCall view.name view.isAsync view.argument).toList <:+: line.toList
  reports : view.reports = true → ∃ line ∈ lines,
    ((completion platform).name ++ "(").toList <:+: line.toList ∧
      (sourceCall view.name view.isAsync view.argument).toList <:+: line.toList

/-- The lines of a wrapper show its scope. -/
theorem showsScope (platform : Platform) (view : CommandView) :
    view.ShowsScope platform (view.wrapperLines platform) where
  declares := ⟨_, declaration_mem platform view, infix_append _ _ _⟩
  calls := ⟨_, callLine_mem platform view, infix_callLine platform view⟩
  reports := by
    intro hReports
    refine ⟨_, callLine_mem platform view, ?_, infix_callLine platform view⟩
    have hLine : view.callLine platform = "            " ++ ((completion platform).name ++ "(") ++
        (view.resultText platform ++ ")") := by
      simp only [callLine, running_eq_later_iff.2 hReports, String.append_assoc]
    rw [hLine]
    exact infix_append _ _ _

end CommandView

/-! ## Wrappers of commands -/

/-- The simple names of the types whose parameters hide the source or the function that a result
is reported to. -/
def hidingNames : Platform → (reports : Bool) → List String
  | _, false => ["source", "Source"]
  | .android, true => ["source", "Source", "onResult", "OnResult"]
  | .ios, true => ["source", "Source", "completion", "Completion"]

namespace CommandView

theorem flatMap_spellings (platform : Platform) (view : CommandView) :
    (view.scaffoldNames platform).flatMap spellings = hidingNames platform view.reports := by
  unfold scaffoldNames reportNames
  generalize view.reports = isReported
  cases isReported <;> cases platform <;> decide

theorem scaffoldNames_small (platform : Platform) (view : CommandView) :
    ∀ name ∈ view.scaffoldNames platform, Text.startsSmall name = true ∧ name ≠ "value" := by
  unfold scaffoldNames reportNames
  generalize view.reports = isReported
  cases isReported <;> cases platform <;> decide

/-- The parameter of a type has a name with a meaning exactly if the type is called like it. -/
theorem parameterName_mem_iff {platform : Platform} {view : CommandView} {d : Descriptor} :
    parameterName (some d) ∈ view.scaffoldNames platform ↔
      ∃ q, d.withoutNullable = .reference q ∧
        Descriptor.simpleName q ∈ hidingNames platform view.reports := by
  rw [← flatMap_spellings]
  constructor
  · intro h
    obtain ⟨hSmall, hOther⟩ := view.scaffoldNames_small platform _ h
    rcases (parameterName_eq_iff hSmall).1 rfl with ⟨q, hReference, hSpelled⟩ | ⟨hValue, -⟩
    · exact ⟨q, hReference, List.mem_flatMap.2 ⟨_, h, hSpelled⟩⟩
    · exact absurd hValue hOther
  · rintro ⟨q, hReference, hSpelled⟩
    obtain ⟨name, hName, hSpelled⟩ := List.mem_flatMap.1 hSpelled
    have hSmall := (view.scaffoldNames_small platform name hName).1
    rwa [(parameterName_eq_iff hSmall).2 (.inl ⟨q, hReference, hSpelled⟩)]

/-- A parameter that is shown has the name for its type. -/
theorem parameter_of {c : Command} {typeName : Option String} {p : String × String}
    (h : (of c typeName).parameter = some p) : p.1 = parameterName c.parameter := by
  obtain ⟨hDeclared, -⟩ := Option.filter_eq_some_iff.1 h
  obtain ⟨typeText, -, rfl⟩ := Option.map_eq_some_iff.1 hDeclared
  rfl

/-- A result is reported exactly by the wrapper of a command that runs on the main thread and is
not asynchronous. -/
theorem reports_of (c : Command) (typeName : Option String) :
    (of c typeName).reports = true ↔ c.isAsync = false ∧ c.requiresMain = true := by
  simp only [reports, of, Command.dispatch]
  cases c.isAsync <;> cases c.requiresMain <;> decide

end CommandView

/-- What the names in the wrapper of a command with a parameter mean. -/
structure CommandView.HasScope (t : Target) (c : Command) (d : Descriptor) (view : CommandView) :
    Prop where
  reports_iff : view.reports = true ↔ c.isAsync = false ∧ c.requiresMain = true
  named : ∀ p, view.parameter = some p → p.1 = parameterName (some d)
  /-- The types whose parameters have any given name. -/
  named_iff : ∀ name, Text.startsSmall name = true → (parameterName (some d) = name ↔
    (∃ q, d.withoutNullable = .reference q ∧ Descriptor.simpleName q ∈ spellings name) ∨
      (name = "value" ∧ ∀ q, d.withoutNullable ≠ .reference q))
  shows : view.ShowsScope t.platform (view.wrapperLines t.platform)
  captures_iff : view.CapturesNothing t.platform ↔ (view.parameter.isSome = true →
    ∀ q, d.withoutNullable = .reference q →
      Descriptor.simpleName q ∉ hidingNames t.platform view.reports)

/-- The names in the wrapper of a command keep their meanings unless its parameter is of a type of
the source program that is called like the source or, where the wrapper reports its result, like
the function for it. The lines of the wrapper are in every standard text. -/
theorem Target.hasScope_of_commandPart {t : Target} {c : Command} {d : Descriptor}
    {part : Assembly.CommandPart} (hParameter : c.parameter = some d)
    (hPart : Assembly.commandPart t c = .ok part) :
    part.1.HasScope t c d ∧
      ∀ (b : Backend) v a, b.target = t → b.templates = [] → b.generate v = .ok a →
        c ∈ v.commandsFor t.platform →
          ∃ front back, a.text = front ++ textOfLines (part.1.wrapperLines t.platform) ++ back := by
  obtain ⟨r, -, hView⟩ := Assembly.commandPart_eq_ok.1 hPart
  have hOf : part.1 = .of c (r.map (·.1.name)) := congrArg Prod.fst hView
  have hNamed : ∀ p, part.1.parameter = some p → p.1 = CommandView.parameterName (some d) :=
    fun p hShown => hParameter ▸ CommandView.parameter_of (hOf ▸ hShown)
  refine ⟨⟨hOf ▸ CommandView.reports_of c _, hNamed,
    fun _ => CommandView.parameterName_eq_iff, part.1.showsScope t.platform, ?_⟩, ?_⟩
  · have hMem := @CommandView.parameterName_mem_iff t.platform part.1 d
    rw [CommandView.capturesNothing_iff_not_mem]
    cases hShown : part.1.parameter with
    | none => simp
    | some p => simp [hNamed p hShown, hMem]
  · intro b v a hTarget hStandard h hc
    subst hTarget
    obtain ⟨part', hPart', hText⟩ := Backend.exists_wrapperLines hStandard h hc
    cases hPart.symm.trans hPart'
    exact hText

/-- A parameter of a type that is called like nothing else hides nothing. -/
theorem Target.hasScope_openForecast :
    openForecast.parameter = some (.nullable (.reference "Location.Core.Weather.Forecast")) ∧
      ∃ part, Assembly.commandPart (ofMap NamespaceMap.standard .ios) openForecast = .ok part ∧
        part.1.ShowsScope .ios (part.1.wrapperLines .ios) ∧ part.1.CapturesNothing .ios := by
  obtain ⟨part, hPart⟩ : ∃ part,
      Assembly.commandPart (ofMap NamespaceMap.standard .ios) openForecast = .ok part := ⟨_, rfl⟩
  have hScope := (hasScope_of_commandPart rfl hPart).1
  have hOther : ∀ isReported, Descriptor.simpleName "Location.Core.Weather.Forecast" ∉
      hidingNames .ios isReported := by decide
  refine ⟨rfl, part, hPart, hScope.shows, hScope.captures_iff.2 fun _ q hReference => ?_⟩
  cases hReference
  exact hOther _

/-- A command that shows a part of the source. -/
def showSource : Command :=
  { Command.plain "ShowCommand" with parameter := some (.reference "Core.Source") }

/-- A parameter of a type that is called like the source hides it: the command is looked for in
the argument. -/
theorem Target.showSource_capturesSource :
    ∃ part, Assembly.commandPart (ofMap NamespaceMap.standard .android) showSource = .ok part ∧
      part.1.wrapperLines .android = ["", "    fun show(source: Source): Result<Unit> =",
        "        runCatching<Unit> \x7b source.ShowCommand.execute(source) \x7d"] ∧
      CommandView.parameterName showSource.parameter = sourceName ∧
      ¬ part.1.CapturesNothing .android :=
  ⟨_, rfl, by decide, by decide, fun h => h.source (by decide)⟩

end ViewAdapters
