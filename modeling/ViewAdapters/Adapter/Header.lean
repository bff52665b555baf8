import ViewAdapters.Adapter.Content

/-!
# Headers of adapters

The comment in front of an adapter: what it was generated from and when, and
the notes that concern some of its members.
-/

namespace ViewAdapters.Header

def disclaimer : String :=
  "This adapter is a thin reactive binding layer and intentionally contains no business logic."

/-- A note on members; there is none if it names no member. -/
def note (text : String) (members : List String) : List String :=
  if members.isEmpty then [] else ["// " ++ text ++ ": " ++ ", ".intercalate members]

def lines (c : Content) : List String :=
  ["// <auto-generated>",
    "// " ++ disclaimer,
    "// Generated from: " ++ c.viewModel.qualifiedName,
    "// Source module: " ++ c.viewModel.originModule,
    "// Generated at: " ++ c.time.headerText] ++
  note "NOTE: Custom type mappings or date semantics apply to" c.customMembers ++
  note "WARNING: Members needing custom implementation" c.warnedMembers ++
  ["// Do not edit by hand; changes are overwritten on the next generation run.",
    "// </auto-generated>"]

end Header

/-- A text of lines, each ended by a line feed. -/
def textOfLines (lines : List String) : String := String.join (lines.map (· ++ "\n"))

namespace Header

def text (c : Content) : String := textOfLines (lines c)

end Header
end ViewAdapters
