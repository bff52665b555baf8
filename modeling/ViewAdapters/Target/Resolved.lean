import ViewAdapters.Target.Tables
import ViewAdapters.Text.Segments

/-!
# Resolved types

A target type by its name, with the capabilities and imports that it needs.

* `mem_named_imports`: a named type imports what the words of its name require.
-/

namespace ViewAdapters.Target

structure Resolved where
  name : String
  capabilities : CapabilitySet
  imports : ImportSet
  deriving DecidableEq, Repr

namespace Resolved

/-- A type that needs nothing. -/
def plain (name : String) : Resolved := ⟨name, .empty, .empty⟩

/-- A type with the same needs under another name. -/
def wrap (r : Resolved) (name : String) : Resolved := { r with name }

end Resolved

def isWordStart (c : Char) : Bool := c.isAlpha || c == '_'

def isWordPart (c : Char) : Bool := c.isAlphanum || c == '_'

/-- The ASCII identifiers in a text, from left to right; `current` is the one being read,
reversed. -/
def wordsFrom (current : List Char) : List Char → List (List Char)
  | [] => if current.isEmpty then [] else [current.reverse]
  | c :: r =>
    if current.isEmpty then
      if isWordStart c then wordsFrom [c] r else wordsFrom [] r
    else if isWordPart c then wordsFrom (c :: current) r
    else current.reverse :: wordsFrom [] r

/-- The ASCII identifiers in a text. A digit cannot start one. -/
def words (s : String) : List String := (wordsFrom [] s.toList).map String.ofList

/-- What the names of target types in a text bring with them. -/
def needs (platform : Platform) (name : String) : List Requirement :=
  (words name).filterMap (requirement? platform)

/-- A target type given by its name, which may be composed of other names. -/
def named (platform : Platform) (name : String) : Resolved where
  name := name
  capabilities := .ofList ((needs platform name).map Requirement.capability)
  imports := .ofList ((needs platform name).map Requirement.importLine)

/-- A list type. -/
def listOf : Platform → String → String
  | .android, element => "List<" ++ element ++ ">"
  | .ios, element => "[" ++ element ++ "]"

/-- A type that may be absent; the mark is not written twice. -/
def optionalOf (name : String) : String :=
  if (Text.dropEnding? ['?'] name.toList).isSome then name else name ++ "?"

/-- What several types need together. -/
def merge (types : List (Option Resolved)) : Resolved :=
  (types.filterMap id).foldl
    (fun merged r =>
      { merged with
        capabilities := merged.capabilities.union r.capabilities
        imports := merged.imports.union r.imports })
    (.plain "")

theorem mem_named_imports {platform : Platform} {name line : String} :
    line ∈ (named platform name).imports ↔
      ∃ word ∈ words name, ∃ c, requirement? platform word = some ⟨c, line⟩ := by
  rw [named, SortedSet.mem_ofList fun _ _ h => h]
  simp only [needs, List.mem_map, List.mem_filterMap]
  constructor
  · rintro ⟨⟨c, l⟩, ⟨word, hWord, hReq⟩, rfl⟩
    exact ⟨word, hWord, c, hReq⟩
  · rintro ⟨word, hWord, c, hReq⟩
    exact ⟨⟨c, line⟩, ⟨word, hWord, hReq⟩, rfl⟩

end ViewAdapters.Target
