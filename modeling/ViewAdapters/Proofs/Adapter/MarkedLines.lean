import ViewAdapters.Proofs.Adapter.TextLines
import ViewAdapters.Proofs.Text.Marks

/-!
# Marked lines

What the lines of an adapter say of its members is read off them by marks: which properties are
contained and published, which changes are listened to, what is written back and what is wrapped.
Other lines are passed over, whatever their values are.

* `readLines`: what all lines say, read from the first one on.
* `Reads`: what lines say whatever follows them, where only items of a kind can be kept.
* `Reads.append`, `Reads.flatMap`, `Reads.dispatched`: lines are read part by part, and those of a
  wrapper by its kind.
* `Reads.give`, `Reads.skip`, `Reads.above`: one line that says something by itself, one that says
  nothing, and one whose items depend on the line below.
* `reads_written`: what the lines say that write one property back to its source.
-/

namespace ViewAdapters

/-! ## Marks of adapters -/

/-- What a line is for. -/
inductive LineKind where
  /-- Contains the value of a property. -/
  | container
  /-- Publishes a property. -/
  | published
  /-- Tells whether a command can run. -/
  | accessor
  /-- Handles a change of a property. -/
  | changed
  /-- Listens to a collection. -/
  | listener
  /-- Writes a property back. -/
  | writeBack
  /-- Starts a function that suspends. -/
  | suspended
  /-- Starts a function. -/
  | function
  deriving DecidableEq

def lineMarks : Platform → List (Mark LineKind)
  | .android => [
    ⟨.container, "private val _", " = MutableStateFlow<"⟩,
    ⟨.published, "val ", ": StateFlow<"⟩,
    ⟨.accessor, "val ", ": Boolean"⟩,
    ⟨.changed, "\"", "\" -> \x7b "⟩,
    ⟨.listener, "source.", ".CollectionChanged += \x7b _, _ ->"⟩,
    ⟨.writeBack, "source.", " = "⟩,
    ⟨.suspended, "suspend fun ", "("⟩,
    ⟨.function, "fun ", "("⟩]
  | .ios => [
    ⟨.container, "@Published var ", ": "⟩,
    ⟨.published, "@Published var ", ": "⟩,
    ⟨.container, "@Published private(set) var ", ": "⟩,
    ⟨.published, "@Published private(set) var ", ": "⟩,
    ⟨.accessor, "var ", ": Bool \x7b"⟩,
    ⟨.changed, "case \"", "\":"⟩,
    ⟨.listener, "source.", ".CollectionChanged"⟩,
    ⟨.writeBack, "self.source.", " = "⟩,
    ⟨.function, "func ", "("⟩]

/-- The mark of a call of the source without arguments, in the handler of a new value. -/
def callMark : Platform → Mark Unit
  | .android => ⟨(), "source.", "()"⟩
  | .ios => ⟨(), "self.source.", "()"⟩

/-- The method of the source that a line calls and does nothing else. -/
def calledIn (platform : Platform) (line : String) : Option String :=
  (((callMark platform).mention? line).filter (·.rest == "")).map (·.name)

/-- What the body of a function that wraps a command starts with in Kotlin. -/
def bodyStarts : List String := ["viewModelScope.launch(", "runCatching<Unit> \x7b"]

def startsBody (line : String) : Bool :=
  bodyStarts.any fun s => s.toList.isPrefixOf (Text.trimStartChars line.toList)

/-- The only parameter in Kotlin of a function on the main thread without a command's parameter, and
what follows it. -/
def onlyResult : String := "onResult: (Result<Unit>) -> Unit = \x7b\x7d) \x7b"

/-- The name of a command's parameter in what follows the opening bracket. -/
def parameterIn (platform : Platform) (rest : String) : Option String :=
  let inside := match platform with
    | .android => if rest = onlyResult then none else some rest.toList
    | .ios => rest.toList.dropPrefix? "_ ".toList
  (inside.map (·.takeWhile Target.isWordPart)).bind fun word =>
    if word.isEmpty then none else some (String.ofList word)

/-- The end in Swift of the first line of a function that is asynchronous. -/
def asyncEnding : String := " async -> Result<Void, Error> \x7b"

def isAsyncIn (rest : String) : Bool := asyncEnding.toList.isSuffixOf rest.toList

theorem calledIn_call {platform : Platform} {name : String} {cs t : List Char}
    (hName : IsWord name) (h : lineHits? [callMark platform] cs t = some [((), [])]) :
    calledIn platform (String.ofList cs ++ name ++ String.ofList t) = some name := by
  have hCall := (Mentions.start hName h).mentions_eq
  cases hFound : (callMark platform).mention? (String.ofList cs ++ name ++ String.ofList t) with
  | none => simp [mentions, hFound] at hCall
  | some m =>
    simp only [mentions, List.filterMap_cons, hFound, List.filterMap_nil, List.map_cons,
      List.map_nil, List.cons.injEq, and_true] at hCall
    simp [calledIn, hFound, hCall]

/-! ## Reading -/

/-- An assignment of a new value to the source. -/
structure WriteBack where
  name : String
  value : String
  /-- The method that validates the value. -/
  validator : Option String
  deriving DecidableEq

/-- A function that wraps a command. -/
structure Wrapper where
  identifier : String
  isAsync : Bool
  /-- The name of the command's parameter. -/
  parameter : Option String
  deriving DecidableEq

/-- What a line of an adapter says of a member. -/
inductive LineItem where
  | container (identifier : String)
  | published (identifier : String)
  | accessor (name : String)
  | changed (name : String)
  | listener (name : String)
  | writeBack (w : WriteBack)
  | wrapper (w : Wrapper)
  deriving DecidableEq

/-- What a line says in which a mark is found, given the line below. A function in Kotlin that does
not start like a wrapper is none. -/
def itemsOf (platform : Platform) (m : Mention LineKind) (below : String) : List LineItem :=
  match m.kind with
  | .container => [.container m.name]
  | .published => [.published m.name]
  | .accessor => [.accessor m.name]
  | .changed => [.changed m.name]
  | .listener => [.listener m.name]
  | .writeBack => [.writeBack ⟨m.name, m.rest, calledIn platform below⟩]
  | .suspended => [.wrapper ⟨m.name, true, parameterIn platform m.rest⟩]
  | .function =>
    match platform with
    | .android =>
      if startsBody below then [.wrapper ⟨m.name, false, parameterIn .android m.rest⟩] else []
    | .ios => [.wrapper ⟨m.name, isAsyncIn m.rest, parameterIn .ios m.rest⟩]

def readLine (platform : Platform) (line below : String) : List LineItem :=
  (mentions (lineMarks platform) line).flatMap (itemsOf platform · below)

/-- What lines say, in their order. -/
def readLines (platform : Platform) : List String → List LineItem
  | [] => []
  | line :: rest => readLine platform line (rest.headD "") ++ readLines platform rest

/-- What lines say, whatever follows them; items that are not kept are passed over. -/
def Reads (keep : LineItem → Bool) (platform : Platform) (ls : List String)
    (items : List LineItem) : Prop :=
  ∀ rest, (readLines platform (ls ++ rest)).filter keep =
    items.filter keep ++ (readLines platform rest).filter keep

/-- What a line that starts with a text says, whatever follows. -/
def Gives (platform : Platform) (s : String) (items : List LineItem) : Prop :=
  ∀ more below, readLine platform (s ++ more) below = items

section Reads

variable {keep : LineItem → Bool} {platform : Platform}

namespace Gives

variable {s : String} {items : List LineItem}

theorem more (h : Gives platform s items) (t : String) : Gives platform (s ++ t) items := by
  intro rest below
  rw [String.append_assoc]
  exact h (t ++ rest) below

theorem readLine_eq (h : Gives platform s items) (below : String) :
    readLine platform s below = items := by
  simpa using h "" below

theorem of_mentions {name : String} {hits : List (LineKind × List Char)}
    (h : Mentions (lineMarks platform) s name hits)
    (hItems : ∀ rest below, (hits.flatMap fun hit =>
      itemsOf platform ⟨hit.1, name, String.ofList hit.2 ++ rest⟩ below) = items) :
    Gives platform s items := by
  intro more below
  rw [readLine, h more, List.flatMap_map]
  exact hItems more below

end Gives

namespace Reads

variable {line below : String} {ls ls' : List String} {items items' : List LineItem}

theorem readLines_eq (h : Reads keep platform ls items) :
    (readLines platform ls).filter keep = items.filter keep := by
  simpa [readLines] using h []

theorem nil : Reads keep platform [] [] := fun _ => rfl

theorem append (h : Reads keep platform ls items) (h' : Reads keep platform ls' items') :
    Reads keep platform (ls ++ ls') (items ++ items') := by
  intro rest
  rw [List.append_assoc, h, h', List.filter_append, List.append_assoc]

theorem flatMap {α : Type} {xs : List α} {f : α → List String} {g : α → List LineItem}
    (h : ∀ x ∈ xs, Reads keep platform (f x) (g x)) :
    Reads keep platform (xs.flatMap f) (xs.flatMap g) := by
  induction xs with
  | nil => exact .nil
  | cons x xs ih =>
    rw [List.forall_mem_cons] at h
    exact h.1.append (ih h.2)

/-- Parts of lines that say one thing each. -/
theorem each {α : Type} {xs : List α} {f : α → List String} {g : α → LineItem}
    (h : ∀ x ∈ xs, Reads keep platform (f x) [g x]) :
    Reads keep platform (xs.flatMap f) (xs.map g) := by
  rw [List.map_eq_flatMap]
  exact .flatMap h

/-- Lines that say one thing each. -/
theorem map {α : Type} {xs : List α} {f : α → String} {g : α → LineItem}
    (h : ∀ x ∈ xs, Reads keep platform [f x] [g x]) :
    Reads keep platform (xs.map f) (xs.map g) := by
  rw [List.map_eq_flatMap (f := f)]
  exact .each h

/-- A line in front of others, where what is kept of it can depend on the line below. -/
theorem cons (hLine : ∀ rest, (readLine platform line ((ls ++ rest).headD "")).filter keep =
    items.filter keep) (h : Reads keep platform ls items') :
    Reads keep platform (line :: ls) (items ++ items') := by
  intro rest
  rw [List.cons_append, readLines, List.filter_append, hLine, h, List.filter_append,
    List.append_assoc]

/-- A line whose items do not depend on the line below. -/
theorem read (hLine : ∀ below, readLine platform line below = items)
    (h : Reads keep platform ls items') : Reads keep platform (line :: ls) (items ++ items') :=
  .cons (fun _ => by rw [hLine]) h

theorem give (hLine : Gives platform line items) (h : Reads keep platform ls items') :
    Reads keep platform (line :: ls) (items ++ items') :=
  .read hLine.readLine_eq h

/-- A line that no mark is found in. -/
theorem skip (hLine : mentions (lineMarks platform) line = []) (h : Reads keep platform ls items) :
    Reads keep platform (line :: ls) items := by
  have hNone : ∀ below, readLine platform line below = [] := fun _ => by
    rw [readLine, hLine]
    rfl
  exact .read hNone h

/-- The lines of a wrapper say what those of its kind say. -/
theorem dispatched {c : CommandView} {ls'' : List String}
    (hAsync : c.isAsync = true → Reads keep platform ls items)
    (hMain : c.isAsync = false → Reads keep platform ls' items)
    (hInline : c.isAsync = false → Reads keep platform ls'' items) :
    Reads keep platform
      (if c.isAsync then ls else if c.dispatch = .main then ls' else ls'') items := by
  cases h : c.isAsync with
  | true => exact hAsync h
  | false =>
    simp only [Bool.false_eq_true, if_false]
    split
    · exact hMain h
    · exact hInline h

/-- Lines that no mark is found in. -/
theorem silent (h : ∀ line ∈ ls, mentions (lineMarks platform) line = []) :
    Reads keep platform ls [] := by
  induction ls with
  | nil => exact .nil
  | cons line ls ih =>
    rw [List.forall_mem_cons] at h
    exact .skip h.1 (ih h.2)

/-- A line whose items depend on the line below. -/
theorem above (hLine : readLine platform line below = items)
    (h : Reads keep platform (below :: ls) items') :
    Reads keep platform (line :: below :: ls) (items ++ items') :=
  .cons (fun _ => by rw [List.cons_append, List.headD_cons, hLine]) h

/-- A line of which nothing is kept. -/
theorem unkept (hLine : ∀ below, ∀ item ∈ readLine platform line below, keep item = false)
    (hItems : ∀ item ∈ items, keep item = false) (h : Reads keep platform ls items') :
    Reads keep platform (line :: ls) (items ++ items') := by
  refine .cons (fun _ => ?_) h
  rw [List.filter_eq_nil_iff.2 fun item hItem => by simp [hLine _ item hItem],
    List.filter_eq_nil_iff.2 fun item hItem => by simp [hItems item hItem]]

end Reads

/-- Whether an item is about what is done with the source. -/
def LineItem.isOfSource : LineItem → Bool
  | .listener _ => true
  | .writeBack _ => true
  | _ => false

def LineKind.isOfSource : LineKind → Bool
  | .listener => true
  | .writeBack => true
  | _ => false

/-- A line says nothing but what is done with the source if it starts like no other line. -/
theorem isOfSource_of_mem_readLine {cs : List Char} {s below : String}
    (h : ∀ m ∈ lineMarks platform,
      clashes (Text.trimStartChars cs) m.front.toList = true ∨ m.kind.isOfSource = true) :
    ∀ item ∈ readLine platform (String.ofList cs ++ s) below, item.isOfSource = true := by
  intro item hItem
  obtain ⟨found, hFound, hIn⟩ := List.mem_flatMap.1 hItem
  have hKind : found.kind.isOfSource = true := kind_of_mem_mentions h hFound
  unfold itemsOf at hIn
  cases hFoundKind : found.kind <;> rw [hFoundKind] at hKind hIn <;>
    first
    | contradiction
    | rw [List.mem_singleton.1 hIn]; rfl

theorem mentions_blank (platform : Platform) : mentions (lineMarks platform) "" = [] := by
  cases platform <;> decide

end Reads

/-! ## Readable members -/

/-- The names that are read off the lines of a property are words. The method that validates it
can have any name if what is done with the source is not kept. -/
structure PropertyView.Readable (keep : LineItem → Bool) (p : PropertyView) : Prop where
  name : IsWord p.name
  identifier : IsWord p.identifier
  setter : IsWord p.setter
  validator : (∀ s ∈ p.afterWrite.validator?, IsWord s) ∨
    ∀ item : LineItem, item.isOfSource = true → keep item = false

/-- The names that are read off the lines of a command are words. -/
structure CommandView.Readable (c : CommandView) : Prop where
  name : IsWord c.name
  identifier : IsWord c.identifier
  canName : IsWord c.canName
  parameter : ∀ q ∈ c.parameter, IsWord q.1 ∧ q.1 ≠ ""

/-- What the lines of a property say of what contains and publishes it. -/
def PropertyView.declaredItems (p : PropertyView) : List LineItem :=
  [.container p.identifier, .published p.identifier]

def PropertyView.writeBack (p : PropertyView) : WriteBack :=
  ⟨p.name, p.toSource, p.afterWrite.validator?⟩

def CommandView.wrapper (c : CommandView) : Wrapper :=
  ⟨c.identifier, c.isAsync, c.parameter.map (·.1)⟩

/-! ## Assignments to the source -/

/-- In front of a member of the source, a literal starts an assignment or a call, and no line that
is about something else. -/
structure StartsAtSource (platform : Platform) (cs : List Char) : Prop where
  assigns : lineHits? (lineMarks platform) cs " = ".toList = some [(.writeBack, [])]
  calls : lineHits? [callMark platform] cs "()".toList = some [((), [])]
  silent : lineHits? (lineMarks platform) cs "()".toList = some []
  isOfSource : ∀ m ∈ lineMarks platform,
    clashes (Text.trimStartChars cs) m.front.toList = true ∨ m.kind.isOfSource = true

section Assignment

variable {keep : LineItem → Bool} {platform : Platform} {p : PropertyView} {cs : List Char}
  {below note closing : String} {ls : List String} {items : List LineItem}

/-- An assignment says with the line below which method validates. -/
theorem reads_assignment (hSource : StartsAtSource platform cs) (h : p.Readable keep)
    (hBelow : calledIn platform below = p.afterWrite.validator?)
    (hLines : Reads keep platform (below :: ls) items) :
    Reads keep platform ((String.ofList cs ++ p.name ++ " = " ++ p.toSource) :: below :: ls)
      (.writeBack p.writeBack :: items) := by
  have hAssigns : Mentions (lineMarks platform) (String.ofList cs ++ p.name ++ " = ") p.name
      [(.writeBack, [])] := .start h.name hSource.assigns
  have hWrites : readLine platform (String.ofList cs ++ p.name ++ " = " ++ p.toSource) below =
      [.writeBack p.writeBack] := by
    rw [readLine, hAssigns]
    simp [itemsOf, PropertyView.writeBack, hBelow]
  exact .above hWrites hLines

/-- An assignment and the call of a method below it. -/
theorem reads_validated (hSource : StartsAtSource platform cs) (h : p.Readable keep)
    {validator : String} (hAfter : p.afterWrite = .call validator)
    (hLines : Reads keep platform ls items) :
    Reads keep platform
      ((String.ofList cs ++ p.name ++ " = " ++ p.toSource) ::
        (String.ofList cs ++ validator ++ "()") :: ls) (.writeBack p.writeBack :: items) := by
  have hValidator : p.afterWrite.validator? = some validator := by
    rw [hAfter]
    rfl
  rcases h.validator with hWords | hUnkept
  · have hWord : IsWord validator := hWords validator hValidator
    have hCalled : calledIn platform (String.ofList cs ++ validator ++ "()") = some validator :=
      calledIn_call hWord hSource.calls
    have hSilent : Mentions (lineMarks platform) (String.ofList cs ++ validator ++ "()") validator
        [] := .start hWord hSource.silent
    exact reads_assignment hSource h (hCalled.trans hValidator.symm)
      (.skip hSilent.mentions_eq hLines)
  · have hNone : ∀ s below, ∀ item ∈ readLine platform (String.ofList cs ++ s) below,
        keep item = false :=
      fun s below item hItem => hUnkept _ (isOfSource_of_mem_readLine hSource.isOfSource item hItem)
    have hWrites : ∀ below, ∀ item ∈ readLine platform
        (String.ofList cs ++ p.name ++ " = " ++ p.toSource) below, keep item = false := by
      intro below
      rw [String.append_assoc, String.append_assoc]
      exact hNone _ below
    have hCalls : ∀ below, ∀ item ∈ readLine platform (String.ofList cs ++ validator ++ "()") below,
        keep item = false := by
      intro below
      rw [String.append_assoc]
      exact hNone _ below
    have hItem : ∀ item ∈ [LineItem.writeBack p.writeBack], keep item = false := by
      simpa using hUnkept _ rfl
    exact .unkept hWrites hItem (.unkept hCalls (List.forall_mem_nil _) hLines)

/-- An assignment with what happens after it, in front of a line that calls nothing. -/
theorem reads_written (hSource : StartsAtSource platform cs) (h : p.Readable keep)
    {after : AfterWrite → List String} (hNothing : after .nothing = [])
    (hCall : ∀ validator, after (.call validator) = [String.ofList cs ++ validator ++ "()"])
    (hNote : after .bySource = [note]) (hSilent : mentions (lineMarks platform) note = [])
    (hNoCall : calledIn platform note = none) (hClosing : calledIn platform closing = none)
    (hLines : Reads keep platform (closing :: ls) items) :
    Reads keep platform
      ((String.ofList cs ++ p.name ++ " = " ++ p.toSource) ::
        (after p.afterWrite ++ closing :: ls)) (.writeBack p.writeBack :: items) := by
  cases hAfter : p.afterWrite with
  | nothing =>
    rw [hNothing]
    exact reads_assignment hSource h (by rw [hAfter]; exact hClosing) hLines
  | call validator =>
    rw [hCall]
    exact reads_validated hSource h hAfter hLines
  | bySource =>
    rw [hNote]
    exact reads_assignment hSource h (by rw [hAfter]; exact hNoCall) (.skip hSilent hLines)

end Assignment

/-- The names that are read off the lines of an adapter are words. -/
structure Content.Readable (keep : LineItem → Bool) (c : Content) : Prop where
  properties : ∀ p ∈ c.properties, p.Readable keep
  commands : ∀ q ∈ c.commands, q.Readable

namespace Content

def accessorItems (c : Content) : List LineItem :=
  (c.commands.filter (·.exposesCanExecute)).map (.accessor ·.canName)

/-- What the lines say that bind properties to the source. -/
def bindingItems (c : Content) : List LineItem :=
  c.properties.map (.changed ·.name) ++ c.collections.map (.listener ·.name) ++
    c.twoWayProperties.map (.writeBack ·.writeBack)

def wrapperItems (c : Content) : List LineItem := c.commands.map (.wrapper ·.wrapper)

theorem bindingItems_of_isEmpty {c : Content} (h : c.properties.isEmpty = true) :
    c.bindingItems = [] := by
  simp [bindingItems, collections, twoWayProperties, List.isEmpty_iff.1 h]

end Content

end ViewAdapters
