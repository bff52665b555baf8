import ViewAdapters.Proofs.Adapter.WrapperLines
import ViewAdapters.Proofs.Target.FilledNames

/-!
# Parameters of commands

The wrapper of a command takes the parameter of the command and passes it to the source, whenever
the type of the parameter has a name. So it does in every configuration of the namespaces, unless
the whole name of the type is replaced by the empty text.

* `Command.handsOn_wrapperLines`: a wrapper with a named type takes and passes its parameter.
* `Content.wrapperLines_infix`: the lines of wrappers are among those of an adapter.
* `Target.namesTypes_of_configured`: names of types and wrappers in every configuration.
-/

namespace ViewAdapters

/-! ## Lines of wrappers -/

/-- How a function starts that takes a parameter first. Swift does not show the name of the
parameter where the function is called. -/
def functionStart : Platform → (identifier name typeName : String) → String
  | .android, identifier, name, typeName => "fun " ++ identifier ++ "(" ++ name ++ ": " ++ typeName
  | .ios, identifier, name, typeName =>
    "func " ++ identifier ++ "(" ++ "_ " ++ name ++ ": " ++ typeName

/-- Lines with a function that takes a parameter of a type and with a call that passes it. -/
structure Command.HandsOn (platform : Platform) (c : Command) (name typeName : String)
    (lines : List String) : Prop where
  takes : ∃ line ∈ lines, ∃ ending ∈ [")", ", "],
    (functionStart platform (CommandView.identifierOf c.name) name typeName ++ ending).toList <:+:
      line.toList
  passes : ∃ line ∈ lines, (sourceCall c.name c.isAsync name).toList <:+: line.toList

namespace CommandView

variable {view : CommandView} {name typeName : String}

/-- The parameter that is shown comes first, and the others behind a comma. -/
theorem formalsText_of_shown {platform : Platform}
    (hShown : view.parameter = some (name, typeName)) :
    ∃ ending ∈ [")", ", "], ∃ others,
      "(" ++ view.formalsText platform ++ ")" =
        "(" ++ labelOf platform ++ name ++ ": " ++ typeName ++ ending ++ others := by
  rw [formalsText_eq]
  unfold shownText
  rw [hShown]
  cases view.reports with
  | false => exact ⟨")", by simp, "", by simp [String.append_assoc]⟩
  | true =>
    exact ⟨", ", by simp, (completion platform).text ++ ")", by simp [String.append_assoc]⟩

/-- A wrapper takes the parameter that it shows. -/
theorem exists_functionStart (platform : Platform)
    (hShown : view.parameter = some (name, typeName)) :
    ∃ line ∈ view.wrapperLines platform, ∃ ending ∈ [")", ", "],
      (functionStart platform view.identifier name typeName ++ ending).toList <:+:
        line.toList := by
  obtain ⟨ending, hEnding, others, hText⟩ := @formalsText_of_shown _ _ _ platform hShown
  have hWord : ∃ word : String, word.toList <:+ (declarationEnds platform view.running).1.toList ∧
      functionStart platform view.identifier name typeName =
        word ++ (view.identifier ++ "(" ++ labelOf platform ++ name ++ ": " ++ typeName) := by
    cases platform with
    | android =>
      refine ⟨"fun ", ?_, by simp [functionStart, labelOf, String.append_assoc]⟩
      cases view.running <;> decide
    | ios =>
      refine ⟨"func ", ?_, by simp [functionStart, labelOf, String.append_assoc]⟩
      cases view.running <;> decide
  obtain ⟨word, hWord, hStart⟩ := hWord
  have hLine := declaration_mem platform view
  refine ⟨_, hLine, ending, hEnding, ?_⟩
  have hTail : ending.toList <+:
      (ending ++ (others ++ (declarationEnds platform view.running).2)).toList := by
    rw [String.toList_append]
    exact List.prefix_append _ _
  rw [hText, hStart]
  simpa only [String.append_assoc] using infix_between hWord hTail
    (view.identifier ++ "(" ++ labelOf platform ++ name ++ ": " ++ typeName)

end CommandView

/-- The wrapper of a command with a type to show takes and passes the parameter. -/
theorem Command.handsOn_wrapperLines (platform : Platform) (c : Command) {typeName : String}
    (hType : typeName ≠ "") :
    c.HandsOn platform (CommandView.parameterName c.parameter) typeName
      ((CommandView.of c (some typeName)).wrapperLines platform) := by
  have hShown : (CommandView.of c (some typeName)).parameter =
      some (CommandView.parameterName c.parameter, typeName) := by
    simp [CommandView.parameter, CommandView.of, hType]
  refine ⟨CommandView.exists_functionStart platform hShown, ?_⟩
  have hCall := CommandView.infix_callLine platform (CommandView.of c (some typeName))
  rw [CommandView.argument, hShown] at hCall
  exact ⟨_, CommandView.callLine_mem platform _, hCall⟩

/-- Without a type to show the wrapper passes nothing. -/
theorem Command.exists_call_empty (platform : Platform) (c : Command) :
    (CommandView.of c (some "")).parameter = none ∧
      ∃ line ∈ (CommandView.of c (some "")).wrapperLines platform,
        (sourceCall c.name c.isAsync "").toList <:+: line.toList := by
  have hHidden : (CommandView.of c (some "")).parameter = none := by
    simp [CommandView.parameter, CommandView.of]
  have hCall := CommandView.infix_callLine platform (CommandView.of c (some ""))
  rw [CommandView.argument, hHidden] at hCall
  exact ⟨hHidden, _, CommandView.callLine_mem platform _, hCall⟩

/-! ## Wrappers in adapters -/

theorem infix_flatMap_of_mem {α β : Type} {x : α} {xs : List α} (h : x ∈ xs) (f : α → List β) :
    f x <:+: xs.flatMap f := by
  obtain ⟨front, back, rfl⟩ := List.append_of_mem h
  exact ⟨front.flatMap f, back.flatMap f, by simp⟩

theorem exists_textOfLines {ls ls' : List String} (h : ls <:+: ls') :
    ∃ front back, textOfLines ls' = front ++ textOfLines ls ++ back := by
  obtain ⟨front, back, rfl⟩ := h
  exact ⟨textOfLines front, textOfLines back, by
    rw [Text.textOfLines_append, Text.textOfLines_append]⟩

theorem Content.wrapperLines_infix {c : Content} {view : CommandView} (h : view ∈ c.commands) :
    view.wrapperLines c.platform <:+: c.lines := by
  have hBody : view.wrapperLines c.platform <:+: UserTemplate.bodyLines c.platform c := by
    cases c.platform with
    | android => exact (infix_flatMap_of_mem h Kotlin.commandLines).trans (List.infix_append _ _ _)
    | ios =>
      exact (infix_flatMap_of_mem h Swift.commandLines).trans
        ((List.infix_append _ _ _).trans (List.prefix_append _ _).isInfix)
  exact hBody.trans (List.suffix_append _ _).isInfix

/-- The wrapper of each command is in the text of an adapter. -/
theorem Backend.exists_wrapperLines {b : Backend} {v : ViewModel} {a : Adapter} {c : Command}
    (hStandard : b.templates = []) (h : b.generate v = .ok a)
    (hc : c ∈ v.commandsFor b.platform) :
    ∃ part, Assembly.commandPart b.target c = .ok part ∧
      ∃ front back, a.text = front ++ textOfLines (part.1.wrapperLines b.platform) ++ back := by
  obtain ⟨assembly, hMake, hText, -⟩ := exists_assembly_of_generate hStandard h
  obtain ⟨properties, commands, -, hCommands, rfl⟩ := Assembly.make_eq_ok.1 hMake
  obtain ⟨part, hMem, hPart⟩ := exists_mem_of_mapM hCommands hc
  have hView : part.1 ∈ (Assembly.ofParts b.target b.package b.time v properties
      commands).content.commands := List.mem_map_of_mem hMem
  refine ⟨part, hPart, ?_⟩
  rw [hText]
  exact exists_textOfLines (Content.wrapperLines_infix hView)

/-! ## Every configuration -/

namespace Target

/-- A type has a name with something in it, and so has all that is in it, unless the name at its
leaf is lost. -/
structure NamesTypes (t : Target) : Prop where
  resolves : ∀ semantics member d, d.isType = true → d.IsSegmented →
    ∃ r, t.resolve semantics member d = .ok r ∧
      (r.1.name = "" ↔ ∃ name, d = .reference name ∧ t.Erases name)
  parts_iff : ∀ semantics member d, d.isType = true → d.IsSegmented →
    ((∀ part ∈ d.parts, ∃ r, t.resolve semantics member part = .ok r ∧ r.1.name ≠ "") ↔
      t.KeepsName d)
  /-- Layers have something in them if the name at the leaf does. -/
  layers_iff : ∀ semantics member d r leaf, t.resolve semantics member d = .ok r →
    t.resolve semantics member d.leaf = .ok leaf → (IsFilled r.1.name ↔ IsFilled leaf.1.name)
  /-- So it is where names and replacements have no marks of their own. -/
  filled_iff : ∀ semantics member d, d.IsSegmented →
    (∀ name, d.leaf = .reference name → Lacks nameMarks name) →
    (∀ e ∈ t.namespaces, Lacks nameMarks e.2) →
    ∀ r, t.resolve semantics member d = .ok r → (IsFilled r.1.name ↔ t.KeepsName d)

theorem namesTypes_of_isUnique {t : Target} (hUnique : t.namespaces.IsUnique) : t.NamesTypes where
  resolves semantics member d hType hName := by
    obtain ⟨r, hResolve⟩ := (@exists_resolve_iff t semantics member d).2 hType
    exact ⟨r, hResolve, name_resolve_eq_empty_iff hUnique hName hResolve⟩
  parts_iff _ _ _ hType hName := names_parts_ne_empty_iff hUnique hName hType
  layers_iff _ _ _ _ _ h hLeaf := isFilled_resolve_iff h hLeaf
  filled_iff _ _ _ hName hPlain hTargets _ h := isFilled_iff hUnique hName hPlain hTargets h

/-- The wrapper of a command with a parameter takes and passes it, unless the whole name of its
type is lost; then it passes nothing. The wrappers are in the standard texts. -/
structure PassesParameters (t : Target) : Prop where
  wrapper : ∀ c d, c.parameter = some d → d.isType = true → d.IsSegmented →
    ∃ part r, Assembly.commandPart t c = .ok part ∧ t.resolve none c.name d = .ok r ∧
      ((∀ name, d = .reference name → ¬t.Erases name) →
        c.HandsOn t.platform (CommandView.parameterName c.parameter) r.1.name
          (part.1.wrapperLines t.platform)) ∧
      ∀ name, d = .reference name → t.Erases name →
        part.1.parameter = none ∧ ∃ line ∈ part.1.wrapperLines t.platform,
          (sourceCall c.name c.isAsync "").toList <:+: line.toList
  shown : ∀ (b : Backend) v a, b.target = t → b.templates = [] → b.generate v = .ok a →
    ∀ c ∈ v.commandsFor t.platform, ∃ part, Assembly.commandPart t c = .ok part ∧
      ∃ front back, a.text = front ++ textOfLines (part.1.wrapperLines t.platform) ++ back

theorem passesParameters_of_isUnique {t : Target} (hUnique : t.namespaces.IsUnique) :
    t.PassesParameters where
  wrapper c d hParameter hType hName := by
    obtain ⟨r, hResolve⟩ := (@exists_resolve_iff t none c.name d).2 hType
    have hEmpty := name_resolve_eq_empty_iff hUnique hName hResolve
    have hParameterType : t.parameterType c = .ok (some r) := by
      rw [parameterType, hParameter]
      exact congrArg (Except.map some) hResolve
    refine ⟨_, r, Assembly.commandPart_eq_ok.2 ⟨_, hParameterType, rfl⟩, hResolve,
      fun hKept => ?_, fun name hReference hErases => ?_⟩
    · refine c.handsOn_wrapperLines t.platform fun hLost => ?_
      obtain ⟨name, hReference, hErases⟩ := hEmpty.1 hLost
      exact hKept name hReference hErases
    · have hLost := hEmpty.2 ⟨name, hReference, hErases⟩
      rw [Option.map_some, hLost]
      exact c.exists_call_empty t.platform
  shown b v a hTarget hStandard h c hc := by
    subst hTarget
    exact Backend.exists_wrapperLines hStandard h hc

/-- In every configuration of known platforms, types have names and wrappers pass parameters
unless Kotlin replaces a whole name by the empty text. -/
theorem namesTypes_of_configured (tables : List (String × NamespaceTable))
    (hPlatforms : ∀ e ∈ tables, Platform.ofText? e.1 ≠ none) :
    ∃ namespaces, NamespaceMap.configured tables = .ok namespaces ∧ ∀ platform,
      (∀ name, (ofMap namespaces platform).Erases name ↔
        platform = .android ∧ NamespaceMap.replacement? tables platform name = some "") ∧
      (ofMap namespaces platform).NamesTypes ∧ (ofMap namespaces platform).PassesParameters := by
  obtain ⟨namespaces, hConfigured, hTables⟩ :=
    NamespaceMap.exists_addAll hPlatforms NamespaceMap.standard
  refine ⟨namespaces, hConfigured, fun platform => ?_⟩
  obtain ⟨hUnique, hEntries⟩ := NamespaceMap.mem_get_configured_iff (hTables platform)
  exact ⟨fun name => and_congr_right fun _ => hEntries name "",
    @namesTypes_of_isUnique (ofMap namespaces platform) hUnique,
    @passesParameters_of_isUnique (ofMap namespaces platform) hUnique⟩

/-- A command that opens what is selected, if something is. -/
def openForecast : Command :=
  { Command.plain "OpenCommand" with
    parameter := some (.nullable (.reference "Location.Core.Weather.Forecast")) }

/-- A parameter of a type in a namespace that is replaced. -/
theorem namesTypes_of_configured_weather :
    (∀ e ∈ weatherTables, Platform.ofText? e.1 ≠ none) ∧
      ∃ namespaces, NamespaceMap.configured weatherTables = .ok namespaces ∧
        ∃ part, Assembly.commandPart (ofMap namespaces .android) openForecast = .ok part ∧
          openForecast.HandsOn .android "forecast" "com.example.weather.Forecast?"
            (part.1.wrapperLines .android) := by
  have hPlatforms : ∀ e ∈ weatherTables, Platform.ofText? e.1 ≠ none := by decide +kernel
  refine ⟨hPlatforms, ?_⟩
  obtain ⟨namespaces, hConfigured, hTargets⟩ := namesTypes_of_configured weatherTables hPlatforms
  have hName : (Descriptor.nullable (.reference "Location.Core.Weather.Forecast")).IsSegmented := by
    rintro name ⟨⟩
    unfold ViewAdapters.IsSegmented
    decide
  obtain ⟨part, r, hPart, hResolve, hHandsOn, -⟩ :=
    (hTargets .android).2.2.wrapper openForecast _ rfl rfl hName
  have hType : (NamespaceMap.configured weatherTables).toOption.map (fun namespaces =>
      ((ofMap namespaces .android).resolve none openForecast.name
        (.nullable (.reference "Location.Core.Weather.Forecast"))).toOption.map (·.1.name)) =
      some (some "com.example.weather.Forecast?") := by decide +kernel
  rw [hConfigured] at hType
  have hResolved := Option.some.inj hType
  dsimp only at hResolved
  rw [hResolve] at hResolved
  have hTypeName : r.1.name = "com.example.weather.Forecast?" := Option.some.inj hResolved
  have hParameter : CommandView.parameterName openForecast.parameter = "forecast" := by
    decide +kernel
  refine ⟨namespaces, hConfigured, part, hPart, ?_⟩
  rw [← hTypeName, ← hParameter]
  exact hHandsOn fun name hReference => nomatch hReference

/-- A type whose whole name is replaced by the empty text. -/
def lostStop : List (String × NamespaceTable) := [("android", [("Fleet.Stop", "")])]

/-- A command that shows a stop. -/
def showStop : Command :=
  { Command.plain "ShowCommand" with parameter := some (.reference "Fleet.Stop") }

/-- The name of a type is lost in Kotlin but not in Swift, and the wrapper of a command takes and
passes nothing. -/
theorem lostStop_drops_parameter :
    IsSegmented "Fleet.Stop" ∧
      ∃ namespaces, NamespaceMap.configured lostStop = .ok namespaces ∧
        ((ofMap namespaces .ios).reference "Fleet.Stop").name = "Stop" ∧
        ((ofMap namespaces .android).reference "Fleet.Stop").name = "" ∧
        ((ofMap namespaces .android).resolve none "Show"
          (.collection (.reference "Fleet.Stop"))).toOption.map (·.1.name) = some "List<>" ∧
        ((ofMap namespaces .android).resolve none "Show"
          (.nullable (.reference "Fleet.Stop"))).toOption.map (·.1.name) = some "?" ∧
        ∃ part, Assembly.commandPart (ofMap namespaces .android) showStop = .ok part ∧
          part.1.wrapperLines .android = ["", "    fun show(): Result<Unit> =",
            "        runCatching<Unit> \x7b source.ShowCommand.execute() \x7d"] := by
  have hName : IsSegmented "Fleet.Stop" := by
    unfold IsSegmented
    decide
  exact ⟨hName, _, rfl, by decide, by decide, by decide, by decide, _, rfl, by decide⟩

end Target

end ViewAdapters
