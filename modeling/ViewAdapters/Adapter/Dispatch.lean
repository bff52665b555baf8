import ViewAdapters.Diagnostic
import ViewAdapters.Model.ViewModel

/-!
# Dispatch of commands

The thread that the wrapper of a command runs it on. A command that needs the
main thread gets it; otherwise an asynchronous command runs in the background
and a synchronous one where it is called.
-/

namespace ViewAdapters

inductive Dispatch where
  | main
  | background
  | inline
  deriving DecidableEq, Repr

def Dispatch.name : Dispatch → String
  | .main => "main"
  | .background => "background"
  | .inline => "inline"

namespace Command

def dispatch (c : Command) : Dispatch :=
  if c.requiresMain then .main
  else if c.isAsync then .background
  else .inline

/-- The finding that a member requires both threads. -/
def conflicting (platform : Platform) (member : String) : Diagnostic where
  code := Diagnostic.conflictingThreadingCode
  member := member
  message := "requires both main and background thread; using main thread"
  platform := platform.name

/-- The finding of a command that requires both threads. -/
def dispatchFinding (c : Command) (platform : Platform) : Option Diagnostic :=
  if c.requiresMain && c.requiresBackground then some (conflicting platform c.name) else none

end Command
end ViewAdapters
