import ViewAdapters.Proofs.Adapter.TextLines

/-!
# Lines of wrappers

Both platforms wrap a command in a function that declares its parameters and calls the command
with the parameter of the command. They differ in the words around the two, which depend on how
the wrapper runs its command. What holds of the lines of wrappers on both platforms follows from
where the declaration and the call stand.

* `CommandView.declaration_mem`: the line that declares the function.
* `CommandView.callLine_mem`, `CommandView.infix_callLine`: the line that calls the command.
-/

namespace ViewAdapters

/-- What is around a text can start earlier and end later. -/
theorem infix_between {x y lead tail : String} (hLead : x.toList <:+ lead.toList)
    (hTail : y.toList <+: tail.toList) (s : String) :
    (x ++ s ++ y).toList <:+: (lead ++ s ++ tail).toList := by
  obtain ⟨front, hFront⟩ := hLead
  obtain ⟨back, hBack⟩ := hTail
  exact ⟨front, back, by simp [← hFront, ← hBack, String.toList_append]⟩

theorem infix_append (front s back : String) : s.toList <:+: (front ++ s ++ back).toList :=
  ⟨front.toList, back.toList, by simp [String.toList_append]⟩

/-- The call of a command of the source. -/
def sourceCall (name : String) (isAsync : Bool) (argument : String) : String :=
  "source." ++ name ++ (if isAsync then ".executeAsync(" else ".execute(") ++ argument ++ ")"

/-- A parameter that a function declares. -/
structure Formal where
  /-- What stands in front of the name. -/
  label : String
  name : String
  /-- The type and, where there is one, the default. -/
  typeText : String

def Formal.text (f : Formal) : String := f.label ++ f.name ++ ": " ++ f.typeText

/-- The function that a wrapper reports its result to. -/
def completion : Platform → Formal
  | .android => ⟨"", "onResult", "(Result<Unit>) -> Unit = \x7b\x7d"⟩
  | .ios => ⟨"", "completion", "@escaping (Result<Void, Error>) -> Void = \x7b _ in \x7d"⟩

/-- Swift does not show the name of a parameter in a call. -/
def labelOf : Platform → String
  | .android => ""
  | .ios => "_ "

/-- How a wrapper runs its command. -/
inductive Running where
  | async
  /-- On the main thread, once the wrapper has returned. -/
  | later
  | inline

/-- What stands in front of the name of a wrapper and behind its parameters. -/
def declarationEnds : Platform → Running → String × String
  | .android, .async => ("    suspend fun ", ": Result<Unit> =")
  | .android, .later => ("    fun ", " \x7b")
  | .android, .inline => ("    fun ", ": Result<Unit> =")
  | .ios, .async => ("    func ", " async -> Result<Void, Error> \x7b")
  | .ios, .later => ("    func ", " \x7b")
  | .ios, .inline => ("    func ", " -> Result<Void, Error> \x7b")

/-- What stands in front of an asynchronous call, up to the name of the command. -/
def asyncLead : Platform → String
  | .android => "                source."
  | .ios => "                try await source."

/-- What stands around the name and the argument of a command whose call makes a result. -/
def resultEnds : Platform → String × String
  | .android => ("runCatching<Unit> \x7b source.", ") \x7d")
  | .ios => ("Result(catching: \x7b try source.", ") \x7d)")

namespace CommandView

/-- The lines of the wrapper of a command. -/
def wrapperLines : Platform → CommandView → List String
  | .android, view => Kotlin.commandLines view
  | .ios, view => Swift.commandLines view

def running (view : CommandView) : Running :=
  if view.isAsync then .async else if view.dispatch = .main then .later else .inline

/-- Whether a wrapper returns before its command ran, so that the result is reported. -/
def reports (view : CommandView) : Bool := !view.isAsync && view.dispatch == .main

/-- The parameters of a wrapper in order. -/
def formals (platform : Platform) (view : CommandView) : List Formal :=
  (view.parameter.map fun p => ⟨labelOf platform, p.1, p.2⟩).toList ++
    if view.reports then [completion platform] else []

/-- What a call has between the word for the source and its end. -/
def callMiddle (view : CommandView) : String :=
  view.name ++ (if view.isAsync then ".executeAsync(" else ".execute(") ++ view.argument

/-- The call of the command with what makes a result of it. -/
def resultText (platform : Platform) (view : CommandView) : String :=
  (resultEnds platform).1 ++ view.callMiddle ++ (resultEnds platform).2

/-- The line with the call. -/
def callLine (platform : Platform) (view : CommandView) : String :=
  match view.running with
  | .async => asyncLead platform ++ view.callMiddle ++ ")"
  | .later => "            " ++ (completion platform).name ++ "(" ++ view.resultText platform ++ ")"
  | .inline => "        " ++ view.resultText platform

/-- The text of the parameters of a wrapper. -/
def formalsText (platform : Platform) (view : CommandView) : String :=
  ", ".intercalate ((view.formals platform).map Formal.text)

/-- The text of the parameter that is shown. -/
def shownText (platform : Platform) (view : CommandView) : String :=
  (view.parameter.map fun p => labelOf platform ++ p.1 ++ ": " ++ p.2).getD ""

section Lines

variable {view : CommandView}

theorem kotlin_parameterText : Kotlin.parameterText view = view.shownText .android := by
  unfold Kotlin.parameterText shownText
  cases view.parameter with
  | none => rfl
  | some p => simp only [Option.map_some, Option.getD_some, labelOf, String.empty_append]

theorem swift_parameterText : Swift.parameterText view = view.shownText .ios := rfl

theorem running_eq_later_iff : view.running = .later ↔ view.reports = true := by
  unfold running reports
  cases view.isAsync <;> by_cases hMain : view.dispatch = .main <;> simp [hMain]

theorem formalsText_eq (platform : Platform) (view : CommandView) :
    view.formalsText platform =
      if view.reports then
        (if view.parameter.isSome then view.shownText platform ++ ", " else "") ++
          (completion platform).text
      else view.shownText platform := by
  unfold formalsText formals shownText
  cases view.parameter <;> cases view.reports <;> simp [Formal.text]

/-- A wrapper has a line that declares its function with all parameters. -/
theorem declaration_mem (platform : Platform) (view : CommandView) :
    (declarationEnds platform view.running).1 ++ view.identifier ++
      ("(" ++ view.formalsText platform ++ ")") ++
        (declarationEnds platform view.running).2 ∈ view.wrapperLines platform := by
  rw [formalsText_eq]
  unfold running reports
  by_cases hAsync : view.isAsync = true
  · cases platform <;>
      simp [wrapperLines, declarationEnds, Kotlin.commandLines, Kotlin.asyncLines,
        Swift.commandLines, Swift.asyncLines, kotlin_parameterText, swift_parameterText, hAsync,
        String.append_assoc]
  by_cases hMain : view.dispatch = .main
  · cases platform <;>
      simp [wrapperLines, declarationEnds, Kotlin.commandLines, Kotlin.mainLines,
        Swift.commandLines, Swift.mainLines, kotlin_parameterText, swift_parameterText, hAsync,
        hMain, completion, Formal.text, String.append_assoc]
  · cases platform <;>
      simp [wrapperLines, declarationEnds, Kotlin.commandLines, Kotlin.inlineLines,
        Swift.commandLines, Swift.inlineLines, kotlin_parameterText, swift_parameterText, hAsync,
        hMain, String.append_assoc]

theorem resultText_of_sync (hSync : view.isAsync = false) :
    view.resultText .android = Kotlin.callText view ∧
      view.resultText .ios = Swift.callText view := by
  unfold resultText callMiddle Kotlin.callText Swift.callText
  rw [hSync]
  simp only [resultEnds, Bool.false_eq_true, if_false, String.append_assoc, and_self]

/-- A wrapper has a line that calls its command. -/
theorem callLine_mem (platform : Platform) (view : CommandView) :
    view.callLine platform ∈ view.wrapperLines platform := by
  unfold callLine running
  by_cases hAsync : view.isAsync = true
  · cases platform <;>
      simp [wrapperLines, asyncLead, callMiddle, Kotlin.commandLines, Kotlin.asyncLines,
        Swift.commandLines, Swift.asyncLines, hAsync, String.append_assoc]
  obtain ⟨hKotlin, hSwift⟩ := resultText_of_sync (Bool.eq_false_iff.2 hAsync)
  by_cases hMain : view.dispatch = .main
  · cases platform <;>
      simp [wrapperLines, hKotlin, hSwift, completion, Kotlin.commandLines, Kotlin.mainLines,
        Swift.commandLines, Swift.mainLines, hAsync, hMain]
  · cases platform <;>
      simp [wrapperLines, hKotlin, hSwift, Kotlin.commandLines, Kotlin.inlineLines,
        Swift.commandLines, Swift.inlineLines, hAsync, hMain]

/-- The call passes the parameter that is shown, if any. -/
theorem infix_callLine (platform : Platform) (view : CommandView) :
    (sourceCall view.name view.isAsync view.argument).toList <:+:
      (view.callLine platform).toList := by
  have hCall : sourceCall view.name view.isAsync view.argument =
      "source." ++ view.callMiddle ++ ")" := by
    simp only [sourceCall, callMiddle, String.append_assoc]
  have hResult : ("source." ++ view.callMiddle ++ ")").toList <:+:
      (view.resultText platform).toList := by
    refine infix_between ?_ ?_ _ <;> cases platform <;> decide
  rw [hCall]
  unfold callLine
  cases view.running with
  | async =>
    refine infix_between ?_ (List.prefix_refl _) _
    cases platform <;> decide
  | later => exact hResult.trans (infix_append _ _ _)
  | inline =>
    refine hResult.trans ?_
    show _ <:+: ("        " ++ view.resultText platform).toList
    rw [String.toList_append]
    exact (List.suffix_append _ _).isInfix

end Lines

end CommandView
end ViewAdapters
