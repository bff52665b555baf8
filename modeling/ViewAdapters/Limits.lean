/-!
# Limits of nested calls

Some of the work is done by calls inside of calls, which can only be nested so
deep. What is nested deeper fails, and the message tells what was called last.

Bounded here are the calls that the program nests itself. A reader of documents
and a renderer of templates have bounds of their own, which are among their
faults, and how many calls are already nested where the work begins is left out.
-/

namespace ViewAdapters

/-- How deep calls can be nested, as far as there are bounds. -/
structure Limits where
  /-- The layers of a type in its text. -/
  types : Option Nat
  /-- The collections in a value that is to be the name of a platform. -/
  values : Option Nat
  /-- The missing directories that lead to one that is made. -/
  directories : Option Nat
  deriving DecidableEq, Repr

namespace Limits

/-- No bounds at all. -/
def unbounded : Limits := ⟨none, none, none⟩

/-- What is left of a thousand nested calls for each kind of work. -/
def standard : Limits := ⟨some 985, some 985, some 985⟩

end Limits

/-- What was called where calls were nested too deep. -/
inductive DepthFault where
  /-- A function of the program. -/
  | call
  /-- The text of a collection in a collection. -/
  | display
  deriving DecidableEq, Repr

def DepthFault.message : DepthFault → String
  | .call => "maximum recursion depth exceeded while calling a Python object"
  | .display => "maximum recursion depth exceeded while getting the repr of an object"

end ViewAdapters
