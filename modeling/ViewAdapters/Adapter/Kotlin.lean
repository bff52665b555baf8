import ViewAdapters.Adapter.Header

/-!
# Kotlin adapters

A `ViewModel` that shows properties as state flows and wraps commands in
functions that return a `Result`. Here are the lines after the header.

* `Kotlin.lines` is all of them; the other definitions are its parts in order.
-/

namespace ViewAdapters.Kotlin

/-- A property named like an observed one, but with the mark of its backing field. -/
def backing (p : PropertyView) : String := "_" ++ p.identifier

/-- The notes in front of a member. -/
def notes (warning batchNote : Option String) : List String :=
  (warning.map ("    // WARNING: " ++ ·)).toList ++ (batchNote.map ("    // " ++ ·)).toList

def setterLines (p : PropertyView) : List String :=
  ["",
    "    fun " ++ p.setter ++ "(value: " ++ p.typeName ++ ") \x7b",
    "        " ++ backing p ++ ".value = value",
    "    \x7d"]

def propertyLines (p : PropertyView) : List String :=
  [""] ++ notes p.warning p.batchNote ++
  ["    private val " ++ backing p ++ " = MutableStateFlow<" ++ p.typeName ++ ">(" ++ p.seed ++ ")",
    "    val " ++ p.identifier ++ ": StateFlow<" ++ p.typeName ++ "> = " ++ backing p ++
      ".asStateFlow()"] ++
  if p.isTwoWay then setterLines p else []

def canExecuteLines (c : CommandView) : List String :=
  ["",
    "    val " ++ c.canName ++ ": Boolean",
    "        get() = source." ++ c.name ++ ".canExecute()"]

/-- The assignment of a property's current value. -/
def refreshText (p : PropertyView) : String := backing p ++ ".value = " ++ p.refresh

def changedCase (p : PropertyView) : String :=
  "                \"" ++ p.name ++ "\" -> \x7b " ++ refreshText p ++ " \x7d"

def collectionListener (p : PropertyView) : List String :=
  ["        source." ++ p.name ++ ".CollectionChanged += \x7b _, _ ->",
    "            " ++ refreshText p,
    "        \x7d"]

def afterWriteLines : AfterWrite → List String
  | .nothing => []
  | .call validator => ["                source." ++ validator ++ "()"]
  | .bySource => ["                // " ++ AfterWrite.noteText]

def writeBackLines (p : PropertyView) : List String :=
  ["        " ++ p.identifier,
    "            .drop(1)",
    "            .onEach \x7b newValue ->",
    "                source." ++ p.name ++ " = " ++ p.toSource] ++
  afterWriteLines p.afterWrite ++
  ["            \x7d",
    "            .launchIn(viewModelScope)"]

def initLines (c : Content) : List String :=
  ["",
    "    init \x7b",
    "        source.PropertyChanged += \x7b _, args ->",
    "            when (args.PropertyName) \x7b"] ++
  c.properties.map changedCase ++
  ["                else -> \x7b\x7d",
    "            \x7d",
    "        \x7d"] ++
  c.collections.flatMap collectionListener ++
  c.twoWayProperties.flatMap writeBackLines ++
  ["    \x7d"]

def parameterText (c : CommandView) : String :=
  (c.parameter.map fun p => p.1 ++ ": " ++ p.2).getD ""

def asyncLines (c : CommandView) : List String :=
  ["    suspend fun " ++ c.identifier ++ "(" ++ parameterText c ++ "): Result<Unit> =",
    "        withContext(" ++
      (if c.dispatch = .main then "Dispatchers.Main" else "Dispatchers.IO") ++ ") \x7b",
    "            try \x7b",
    "                source." ++ c.name ++ ".executeAsync(" ++ c.argument ++ ")",
    "                Result.success(Unit)",
    "            \x7d catch (e: Exception) \x7b",
    "                Result.failure(e)",
    "            \x7d",
    "        \x7d"]

def callText (c : CommandView) : String :=
  "runCatching<Unit> \x7b source." ++ c.name ++ ".execute(" ++ c.argument ++ ") \x7d"

def mainLines (c : CommandView) : List String :=
  ["    fun " ++ c.identifier ++ "(" ++
      (if c.parameter.isSome then parameterText c ++ ", " else "") ++
      "onResult: (Result<Unit>) -> Unit = \x7b\x7d) \x7b",
    "        viewModelScope.launch(Dispatchers.Main) \x7b",
    "            onResult(" ++ callText c ++ ")",
    "        \x7d",
    "    \x7d"]

def inlineLines (c : CommandView) : List String :=
  ["    fun " ++ c.identifier ++ "(" ++ parameterText c ++ "): Result<Unit> =",
    "        " ++ callText c]

def commandLines (c : CommandView) : List String :=
  [""] ++ notes c.warning none ++
  if c.isAsync then asyncLines c
  else if c.dispatch = .main then mainLines c
  else inlineLines c

def openingLines (c : Content) : List String :=
  ["package " ++ c.package, ""] ++
  c.imports.items.map ("import " ++ ·) ++
  ["",
    "class " ++ c.adapterName ++ " @Inject constructor(",
    "    private val source: " ++ c.sourceType,
    ") : ViewModel() \x7b"]

def closingLines : List String :=
  ["",
    "    override fun onCleared() \x7b",
    "        super.onCleared()",
    "        source.dispose()",
    "    \x7d",
    "\x7d"]

/-- The lines of an adapter after its header. -/
def lines (c : Content) : List String :=
  openingLines c ++
  c.properties.flatMap propertyLines ++
  (c.commands.filter (·.exposesCanExecute)).flatMap canExecuteLines ++
  (if c.properties.isEmpty then [] else initLines c) ++
  c.commands.flatMap commandLines ++
  closingLines

end ViewAdapters.Kotlin
