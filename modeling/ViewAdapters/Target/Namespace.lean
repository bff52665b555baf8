import ViewAdapters.Model.Descriptor
import ViewAdapters.Order.Table
import ViewAdapters.Target.Resolved

/-!
# Namespaces of the target platforms

Namespaces of the source program are replaced by namespaces of the target. The
longest replaced namespace that a qualified name lies in decides; a name in none
is reduced to its last segment.

* `longest?_covers`, `longest?_longest`: the chosen entry covers the name and no
  covering entry is longer.
* `Target.reference_none`: a name in no replaced namespace keeps its last segment.
-/

namespace ViewAdapters

/-- Namespaces of the source program with what replaces them. -/
abbrev NamespaceTable := Table String String

namespace NamespaceTable

/-- Whether a qualified name is a namespace or lies in it. -/
def covers (source name : String) : Bool :=
  name == source || (source.toList ++ ['.']).isPrefixOf name.toList

/-- The longer of the entry chosen so far and the next one, if that covers the name. -/
def better (name : String) (best : Option (String × String)) (e : String × String) :
    Option (String × String) :=
  if covers e.1 name && best.all (fun b => b.1.length < e.1.length) then some e else best

/-- The entry of the longest namespace that covers a name. -/
def longest? (table : NamespaceTable) (name : String) : Option (String × String) :=
  table.foldl (better name) none

theorem foldl_better_covers {name : String} {table : NamespaceTable}
    {best : Option (String × String)} {e : String × String}
    (hBest : ∀ b ∈ best, covers b.1 name) (h : table.foldl (better name) best = some e) :
    covers e.1 name ∧ (best = some e ∨ e ∈ table) := by
  induction table generalizing best with
  | nil =>
    rw [List.foldl_nil] at h
    exact ⟨hBest e h, .inl h⟩
  | cons f r ih =>
    rw [List.foldl_cons] at h
    have hStep : ∀ b ∈ better name best f, covers b.1 name := by
      intro b hb
      unfold better at hb
      split at hb
      · cases hb
        simp_all
      · exact hBest b hb
    obtain ⟨hCovers, hIn⟩ := ih hStep h
    refine ⟨hCovers, ?_⟩
    rcases hIn with hIn | hIn
    · unfold better at hIn
      split at hIn
      · cases hIn
        simp
      · exact .inl hIn
    · exact .inr (List.mem_cons_of_mem _ hIn)

theorem longest?_covers {table : NamespaceTable} {name : String} {e : String × String}
    (h : longest? table name = some e) : covers e.1 name ∧ e ∈ table := by
  have := foldl_better_covers (by simp) h
  simpa using this

theorem foldl_better_length {name : String} {table : NamespaceTable}
    {best : Option (String × String)} {f : String × String} (hCovers : covers f.1 name)
    (hIn : f ∈ table ∨ ∃ b ∈ best, f.1.length ≤ b.1.length) :
    ∃ e ∈ table.foldl (better name) best, f.1.length ≤ e.1.length := by
  induction table generalizing best with
  | nil => simpa using hIn
  | cons g r ih =>
    rw [List.foldl_cons]
    apply ih
    rcases hIn with hIn | ⟨b, hb, hle⟩
    · rcases List.mem_cons.1 hIn with rfl | hIn
      · right
        unfold better
        cases hBest : best with
        | none => exact ⟨f, by simp [hCovers], Nat.le_refl _⟩
        | some b =>
          by_cases hlt : b.1.length < f.1.length
          · exact ⟨f, by simp [hCovers, hlt], Nat.le_refl _⟩
          · exact ⟨b, by simp [hlt], Nat.not_lt.1 hlt⟩
      · exact .inl hIn
    · right
      unfold better
      split
      · rename_i hBetter
        rw [hb] at hBetter
        simp at hBetter
        exact ⟨g, rfl, Nat.le_of_lt (Nat.lt_of_le_of_lt hle hBetter.2)⟩
      · exact ⟨b, hb, hle⟩

theorem longest?_longest {table : NamespaceTable} {name : String} {f : String × String}
    (hMem : f ∈ table) (hCovers : covers f.1 name) :
    ∃ e ∈ longest? table name, f.1.length ≤ e.1.length :=
   foldl_better_length hCovers (.inl hMem)

end NamespaceTable

/-- The replacements of every platform. -/
abbrev NamespaceMap := PerPlatform NamespaceTable

namespace NamespaceMap

/-- The replacements that hold unless others are configured. -/
def standard : NamespaceMap where
  android := [("Location.Core", "com.x3squaredcircles.core"),
    ("Location.Photography", "com.x3squaredcircles.photography")]
  ios := [("Location.Core", "LocationCore"), ("Location.Photography", "LocationPhotography")]

/-- Adds the tables of platforms given by name. -/
def addAll (namespaces : NamespaceMap) :
    List (String × NamespaceTable) → Except PlatformError NamespaceMap
  | [] => .ok namespaces
  | (name, entries) :: more => do
    let platform ← Platform.ofText name
    addAll (namespaces.set platform ((namespaces.get platform).setAll entries)) more

/-- The standard replacements overridden and extended by configured ones. -/
def configured (tables : List (String × NamespaceTable)) : Except PlatformError NamespaceMap :=
  standard.addAll tables

end NamespaceMap

/-- A platform with the namespaces that are used on it. -/
structure Target where
  platform : Platform
  namespaces : NamespaceTable
  deriving DecidableEq, Repr

namespace Target

def ofMap (namespaces : NamespaceMap) (platform : Platform) : Target :=
  ⟨platform, namespaces.get platform⟩

/-- What follows a namespace in a qualified name, without the dots between them. -/
def afterNamespace (source name : String) : String :=
  String.ofList ((name.toList.drop source.length).dropWhile (· == '.'))

/-- The target name of a name in a replaced namespace. Kotlin names are qualified
by package; Swift qualifies by module, which then has to be imported. -/
def replaced (platform : Platform) (source target name : String) : Resolved :=
  match platform with
  | .android =>
    let rest := afterNamespace source name
    .plain (if target.isEmpty then rest
      else if rest.isEmpty then target
      else target ++ "." ++ rest)
  | .ios =>
    let simple := Descriptor.simpleName name
    if target.isEmpty then .plain simple
    else ⟨target ++ "." ++ simple, .empty, .ofList [target]⟩

/-- The target type of a type of the source program. -/
def reference (t : Target) (qualifiedName : String) : Resolved :=
  match t.namespaces.longest? qualifiedName with
  | none => .plain (Descriptor.simpleName qualifiedName)
  | some (source, target) => replaced t.platform source target qualifiedName

theorem reference_none {t : Target} {qualifiedName : String}
    (h : t.namespaces.longest? qualifiedName = none) :
    t.reference qualifiedName = .plain (Descriptor.simpleName qualifiedName) := by
  simp [reference, h]

theorem reference_android_imports (namespaces : NamespaceTable) (qualifiedName : String) :
    ((⟨.android, namespaces⟩ : Target).reference qualifiedName).imports = .empty := by
  unfold reference
  split <;> rfl

end Target
end ViewAdapters
