import ViewAdapters.Text.Blank
import ViewAdapters.Text.Casing

/-!
# Target platforms

The platforms that adapters are made for, values that differ by platform, and
the selection of platforms by name.

* `Platform.ofText?_name`: a platform's own name reads as that platform.
* `select_nil`: selecting nothing is an error of its own.
-/

namespace ViewAdapters

inductive Platform where
  | android
  | ios
  deriving DecidableEq, Repr

namespace Platform

def all : List Platform := [.android, .ios]

def name : Platform → String
  | .android => "android"
  | .ios => "ios"

theorem mem_all (p : Platform) : p ∈ all := by cases p <;> simp [all]

/-- The platform that a text names, whatever its case and the blanks around it. -/
def ofText? (s : String) : Option Platform :=
  all.find? fun p => p.name == Text.lower (Text.trim s)

theorem ofText?_name (p : Platform) : ofText? p.name = some p := by
  cases p <;> decide +kernel

end Platform

/-- A value for each platform. -/
structure PerPlatform (α : Type) where
  android : α
  ios : α
  deriving DecidableEq, Repr

namespace PerPlatform

variable {α β : Type}

def get (v : PerPlatform α) : Platform → α
  | .android => v.android
  | .ios => v.ios

def ofFun (f : Platform → α) : PerPlatform α := ⟨f .android, f .ios⟩

def map (f : α → β) (v : PerPlatform α) : PerPlatform β := ⟨f v.android, f v.ios⟩

def set (v : PerPlatform α) (p : Platform) (a : α) : PerPlatform α :=
  match p with
  | .android => { v with android := a }
  | .ios => { v with ios := a }

@[simp] theorem get_ofFun (f : Platform → α) (p : Platform) : (ofFun f).get p = f p := by
  cases p <;> rfl

@[simp] theorem get_set (v : PerPlatform α) (p q : Platform) (a : α) :
    (v.set p a).get q = if p = q then a else v.get q := by
  cases p <;> cases q <;> rfl

theorem ext_get {v w : PerPlatform α} (h : ∀ p, v.get p = w.get p) : v = w := by
  cases v; cases w
  simpa [get] using ⟨h .android, h .ios⟩

end PerPlatform

/-- The platforms that something is left out on. -/
abbrev Exclusion := PerPlatform Bool

namespace Exclusion

def none : Exclusion := ⟨false, false⟩

/-- The excluded platforms, in the order of `Platform.all`. -/
def toList (e : Exclusion) : List Platform := Platform.all.filter e.get

end Exclusion

/-- Why platforms cannot be selected. -/
inductive PlatformError where
  | unknown (shown : String)
  | noneRequested
  deriving DecidableEq, Repr

def PlatformError.message : PlatformError → String
  | .unknown shown => "Unknown platform '" ++ shown ++ "'. Supported platforms: " ++
      ", ".intercalate (Platform.all.map Platform.name)
  | .noneRequested => "At least one platform must be requested"

def Platform.ofText (s : String) : Except PlatformError Platform :=
  match ofText? s with
  | some p => .ok p
  | none => .error (.unknown s)

/-- One item of a request: a platform, or a text that names one or all of them. -/
inductive Selector where
  | platform (p : Platform)
  | named (text : String)
  deriving DecidableEq, Repr

namespace Selector

/-- The word that selects every platform. -/
def everyPlatform : String := "both"

def expand : Selector → Except PlatformError (List Platform)
  | .platform p => .ok [p]
  | .named s =>
    if Text.lower (Text.trim s) = everyPlatform then .ok Platform.all
    else (Platform.ofText s).map ([·])

/-- Adds the platforms that are not there yet, in order. -/
def addNew (chosen more : List Platform) : List Platform :=
  more.foldl (fun ps p => if p ∈ ps then ps else ps ++ [p]) chosen

def selectAfter (chosen : List Platform) : List Selector → Except PlatformError (List Platform)
  | [] => .ok chosen
  | s :: rest => do
    let more ← s.expand
    selectAfter (addNew chosen more) rest

/-- The requested platforms without repeats, first requests first. -/
def select (request : List Selector) : Except PlatformError (List Platform) := do
  let chosen ← selectAfter [] request
  if chosen.isEmpty then throw .noneRequested
  return chosen

theorem select_nil : select [] = .error .noneRequested := rfl

end Selector
end ViewAdapters
