/-!
# Paths

A path names a file by the components that lead to it, from the root or from
the working directory. Empty components and single dots mean nothing and are
dropped; double dots stay, since where they lead depends on the files.
-/

namespace ViewAdapters

structure Path where
  /-- What stands in front of the components: nothing, one slash or two. -/
  root : String
  parts : List String
  deriving DecidableEq, Repr

namespace Path

def separator : String := "/"

/-- The component that leads to the containing directory. -/
def up : String := ".."

/-- The components between slashes, without those that mean nothing; `current` is the one
being read, reversed. -/
def splitParts (current : List Char) : List Char → List String
  | [] => keep current
  | c :: r => if c = '/' then keep current ++ splitParts [] r else splitParts (c :: current) r
where
  keep (current : List Char) : List String :=
    if current = [] || current = ['.'] then [] else [String.ofList current.reverse]

/-- The root of a text: exactly two slashes in front have a meaning of their own. -/
def rootOf : List Char → String
  | '/' :: '/' :: '/' :: _ => "/"
  | '/' :: '/' :: _ => "//"
  | '/' :: _ => "/"
  | _ => ""

def ofString (s : String) : Path := ⟨rootOf s.toList, splitParts [] s.toList⟩

def isAbsolute (p : Path) : Bool := p.root ≠ ""

def text (p : Path) : String :=
  if p.root = "" && p.parts.isEmpty then "." else p.root ++ separator.intercalate p.parts

/-- A path seen from another one. -/
def join (p q : Path) : Path := if q.isAbsolute then q else ⟨p.root, p.parts ++ q.parts⟩

/-- A path given by its text, seen from another one. -/
def child (p : Path) (s : String) : Path := p.join (ofString s)

/-- The containing directory; the root and the working directory contain themselves. -/
def parent (p : Path) : Path := { p with parts := p.parts.dropLast }

/-- The last component; nothing if there is none. -/
def name (p : Path) : String := p.parts.getLast?.getD ""

/-- The components that are left when double dots cancel what stands before them. -/
def collapse (parts : List String) : List String :=
  parts.foldl (fun done part => if part = up then done.dropLast else done ++ [part]) []

end Path
end ViewAdapters
