import ViewAdapters.Adapter.Generation
import ViewAdapters.Adapter.GenerationTime
import ViewAdapters.Order.Table

/-!
# Discovery of backends

The backends of a run are the built-in ones, replaced or joined by those of
plugins, in the order in which their names first occur.
-/

namespace ViewAdapters

/-- What a backend is made with. -/
structure BackendOptions where
  namespaces : NamespaceMap
  templates : UserTemplate.Templates
  given : Option Calendar.DateTime
  epoch : Option String
  present : Calendar.UtcSecond
  directory : Option String
  package : Option String

/-- The built-in backend of a platform. An empty directory or package counts as none. -/
def Backend.make (platform : Platform) (o : BackendOptions) : Except TimeFault Backend := do
  let time ← generationTime o.given o.epoch o.present
  return {
    target := .ofMap o.namespaces platform
    directory := (shown o.directory).getD platform.standardDirectory
    package := (shown o.package).getD standardPackage
    time
    templates := o.templates }

section Discovery

variable {ε β : Type}

/-- What makes a backend. The faults `ε` and the backends `β` of plugins are their own. -/
inductive Factory (ε β : Type) where
  | builtIn (platform : Platform)
  /-- A function, which may return something that is no backend. -/
  | custom (make : BackendOptions → Except ε (Option β))

/-- Why the call of a factory does not return. -/
inductive FactoryFault (ε : Type) where
  | time (fault : TimeFault)
  | custom (failure : ε)
  deriving DecidableEq, Repr

/-- Calls a factory; `wrap` makes a backend of a run of a built-in one. -/
def Factory.call (wrap : Backend → β) (o : BackendOptions) :
    Factory ε β → Except (FactoryFault ε) (Option β)
  | .builtIn platform => ((Backend.make platform o).map fun b => some (wrap b)).mapError .time
  | .custom make => (make o).mapError .custom

/-- What a plugin turns out to hold when it is loaded. -/
inductive Loaded (ε β : Type) where
  | factory (f : Factory ε β)
  | notCallable
  | failure (message : String)

structure Plugin (ε β : Type) where
  name : String
  loaded : Loaded ε β

/-- Why the backends of a run cannot be made. -/
inductive DiscoveryFault (ε : Type) where
  | unloadable (plugin message : String)
  | noFactory (plugin : String)
  | noBackend (name : String)
  | unknown (names : List String)
  | factory (fault : FactoryFault ε)
  deriving DecidableEq, Repr

def DiscoveryFault.message [ToString ε] : DiscoveryFault ε → String
  | .unloadable plugin message =>
    "Failed to load backend entry point '" ++ plugin ++ "': " ++ message
  | .noFactory plugin =>
    "Backend entry point '" ++ plugin ++ "' must be an AdapterBackend subclass or factory"
  | .noBackend name =>
    "Backend factory for '" ++ name ++ "' did not return an AdapterBackend instance"
  | .unknown names => "Unknown backends requested: " ++ ", ".intercalate names
  | .factory (.time fault) => fault.message
  | .factory (.custom failure) => toString failure

/-- Factories by name, in the order of their first names. -/
abbrev Registry (ε β : Type) := Table String (Factory ε β)

namespace Registry

def builtIn : Registry ε β := Platform.all.map fun p => (p.name, .builtIn p)

/-- Adds the plugins, whose names do not depend on case. -/
def addPlugins (registry : Registry ε β) :
    List (Plugin ε β) → Except (DiscoveryFault ε) (Registry ε β)
  | [] => .ok registry
  | p :: rest =>
    match p.loaded with
    | .factory f => addPlugins (registry.set (Text.lower p.name) f) rest
    | .notCallable => .error (.noFactory p.name)
    | .failure message => .error (.unloadable p.name message)

end Registry

/-- What the backends of a run are made with; directories are given by backend name. -/
structure DiscoveryOptions where
  namespaces : NamespaceMap
  templates : UserTemplate.Templates
  given : Option Calendar.DateTime
  epoch : Option String
  present : Calendar.UtcSecond
  directories : List (String × String)
  package : Option String

namespace DiscoveryOptions

/-- The options of one backend. Only the built-in Android backend is given the package. -/
def forBackend (o : DiscoveryOptions) (name : String) (f : Factory ε β) : BackendOptions where
  namespaces := o.namespaces
  templates := o.templates
  given := o.given
  epoch := o.epoch
  present := o.present
  directory := o.directories.lookup name
  package :=
    match f with
    | .builtIn .android => if name = Platform.android.name then o.package else none
    | _ => none

end DiscoveryOptions

/-- Makes the backends of a registry in its order. -/
def makeBackends (wrap : Backend → β) (o : DiscoveryOptions) :
    Registry ε β → Except (DiscoveryFault ε) (List β)
  | [] => .ok []
  | (name, f) :: rest => do
    match ← (f.call wrap (o.forBackend name f)).mapError .factory with
    | none => throw (.noBackend name)
    | some backend => return backend :: (← makeBackends wrap o rest)

/-- The backends with enabled names, or all of them. Names do not depend on case. -/
def discoverBackends (wrap : Backend → β) (o : DiscoveryOptions) (plugins : List (Plugin ε β))
    (enabled : Option (List String)) : Except (DiscoveryFault ε) (List β) := do
  let registry ← Registry.builtIn.addPlugins plugins
  let names := enabled.map (·.map Text.lower)
  let backends ← makeBackends wrap o (registry.filter fun e => names.all (·.contains e.1))
  let unknown := (names.getD []).filter fun n => !(registry.any fun e => e.1 == n)
  if unknown.isEmpty then return backends
  throw (.unknown (SortedSet.ofList unknown : SortedSet fun n : String => n).items)

end Discovery
end ViewAdapters
