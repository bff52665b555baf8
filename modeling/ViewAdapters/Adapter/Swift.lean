import ViewAdapters.Adapter.Header

/-!
# Swift adapters

An `ObservableObject` that publishes properties and wraps commands in
functions that return a `Result`. Here are the lines after the header.

* `Swift.lines` is all of them; the other definitions are its parts in order.
-/

namespace ViewAdapters.Swift

def declarationLines (p : PropertyView) : List String :=
  (p.warning.map ("    // WARNING: " ++ ·)).toList ++
  (p.batchNote.map ("    // " ++ ·)).toList ++
  ["    @Published " ++ (if p.isTwoWay then "var " else "private(set) var ") ++ p.identifier ++
    ": " ++ p.typeName]

def storageLines (c : Content) : List String :=
  (if c.properties.isEmpty then [] else [""]) ++
  ["    private let source: " ++ c.sourceType,
    "    private var cancellables = Set<AnyCancellable>()"] ++
  if c.twoWayProperties.isEmpty then [] else ["    private var isApplyingSourceChange = false"]

def initLines (c : Content) : List String :=
  ["",
    "    init(source: " ++ c.sourceType ++ ") \x7b",
    "        self.source = source"] ++
  c.properties.map (fun p => "        self." ++ p.identifier ++ " = " ++ p.seed) ++
  (if c.properties.isEmpty then [] else ["        setupBindings()"]) ++
  ["    \x7d"]

def canExecuteLines (c : CommandView) : List String :=
  ["",
    "    var " ++ c.canName ++ ": Bool \x7b",
    "        source." ++ c.name ++ ".canExecute()",
    "    \x7d"]

def parameterText (c : CommandView) : String :=
  (c.parameter.map fun p => "_ " ++ p.1 ++ ": " ++ p.2).getD ""

/-- The task that an asynchronous wrapper runs and its check of the thread. -/
def taskLines (dispatch : Dispatch) : List String :=
  if dispatch = .main then
    ["        await Task \x7b @MainActor [source] () -> Result<Void, Error> in",
      "            dispatchPrecondition(condition: .onQueue(.main))"]
  else
    ["        await Task.detached(priority: .background) \x7b [source] () -> " ++
        "Result<Void, Error> in",
      "            dispatchPrecondition(condition: .notOnQueue(.main))"]

def asyncLines (c : CommandView) : List String :=
  ["    func " ++ c.identifier ++ "(" ++ parameterText c ++
    ") async -> Result<Void, Error> \x7b"] ++
  taskLines c.dispatch ++
  ["            do \x7b",
    "                try await source." ++ c.name ++ ".executeAsync(" ++ c.argument ++ ")",
    "                return .success(())",
    "            \x7d catch \x7b",
    "                return .failure(error)",
    "            \x7d",
    "        \x7d.value",
    "    \x7d"]

def callText (c : CommandView) : String :=
  "Result(catching: \x7b try source." ++ c.name ++ ".execute(" ++ c.argument ++ ") \x7d)"

def mainLines (c : CommandView) : List String :=
  ["    func " ++ c.identifier ++ "(" ++
      (if c.parameter.isSome then parameterText c ++ ", " else "") ++
      "completion: @escaping (Result<Void, Error>) -> Void = \x7b _ in \x7d) \x7b",
    "        DispatchQueue.main.async \x7b [source] in",
    "            completion(" ++ callText c ++ ")",
    "        \x7d",
    "    \x7d"]

def inlineLines (c : CommandView) : List String :=
  ["    func " ++ c.identifier ++ "(" ++ parameterText c ++ ") -> Result<Void, Error> \x7b",
    "        " ++ callText c,
    "    \x7d"]

def commandLines (c : CommandView) : List String :=
  [""] ++ (c.warning.map ("    // WARNING: " ++ ·)).toList ++
  if c.isAsync then asyncLines c
  else if c.dispatch = .main then mainLines c
  else inlineLines c

def changedCase (p : PropertyView) : List String :=
  ["                    case \"" ++ p.name ++ "\":",
    "                        self." ++ p.identifier ++ " = " ++ p.refresh]

/-- The lines that keep a change of the source from being written back to it. -/
def guardLines : List String :=
  ["                    self.isApplyingSourceChange = true",
    "                    defer \x7b self.isApplyingSourceChange = false \x7d"]

def collectionListener (p : PropertyView) : List String :=
  ["",
    "        source." ++ p.name ++ ".CollectionChanged",
    "            .subscribe \x7b [weak self] _ in",
    "                Task \x7b @MainActor in",
    "                    guard let self = self else \x7b return \x7d",
    "                    self." ++ p.identifier ++ " = " ++ p.refresh,
    "                \x7d",
    "            \x7d",
    "            .store(in: &cancellables)"]

def afterWriteLines : AfterWrite → List String
  | .nothing => []
  | .call validator => ["                self.source." ++ validator ++ "()"]
  | .bySource => ["                // " ++ AfterWrite.noteText]

def writeBackLines (p : PropertyView) : List String :=
  ["",
    "        $" ++ p.identifier,
    "            .dropFirst()",
    "            .sink \x7b [weak self] newValue in",
    "                guard let self = self, !self.isApplyingSourceChange else \x7b return \x7d",
    "                self.source." ++ p.name ++ " = " ++ p.toSource] ++
  afterWriteLines p.afterWrite ++
  ["            \x7d",
    "            .store(in: &cancellables)"]

def bindingLines (c : Content) : List String :=
  ["",
    "    private func setupBindings() \x7b",
    "        source.PropertyChanged",
    "            .subscribe \x7b [weak self] args in",
    "                Task \x7b @MainActor in",
    "                    guard let self = self else \x7b return \x7d"] ++
  (if c.twoWayProperties.isEmpty then [] else guardLines) ++
  ["                    switch args.PropertyName \x7b"] ++
  c.properties.flatMap changedCase ++
  ["                    default:",
    "                        break",
    "                    \x7d",
    "                \x7d",
    "            \x7d",
    "            .store(in: &cancellables)"] ++
  c.collections.flatMap collectionListener ++
  c.twoWayProperties.flatMap writeBackLines ++
  ["    \x7d"]

def openingLines (c : Content) : List String :=
  c.imports.items.map ("import " ++ ·) ++
  ["",
    "final class " ++ c.adapterName ++ ": ObservableObject \x7b"]

def closingLines : List String :=
  ["",
    "    deinit \x7b",
    "        cancellables.removeAll()",
    "        source.dispose()",
    "    \x7d",
    "\x7d"]

/-- The lines of an adapter after its header. -/
def lines (c : Content) : List String :=
  openingLines c ++
  c.properties.flatMap declarationLines ++
  storageLines c ++
  initLines c ++
  (c.commands.filter (·.exposesCanExecute)).flatMap canExecuteLines ++
  c.commands.flatMap commandLines ++
  (if c.properties.isEmpty then [] else bindingLines c) ++
  closingLines

end ViewAdapters.Swift
