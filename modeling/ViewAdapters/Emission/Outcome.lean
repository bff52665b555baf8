import ViewAdapters.Diagnostic
import ViewAdapters.Files.Path
import ViewAdapters.Model.Platform

/-!
# Outcomes and summaries

What happened to each pair of a view-model and a platform, and what a run
amounts to.

* `Outcome.path?_isSome_iff`: an outcome has a path exactly if it was generated.
-/

namespace ViewAdapters

/-- What happened to one pair. -/
inductive Result where
  | generated (path : Path) (diagnostics : List Diagnostic)
  | failed (error : String)
  /-- The view-model is excluded on the platform. -/
  | skipped
  deriving DecidableEq, Repr

inductive Status where
  | clean
  | diagnostics
  | failed
  | skipped
  deriving DecidableEq, Repr

def Status.name : Status → String
  | .clean => "clean"
  | .diagnostics => "diagnostics"
  | .failed => "failed"
  | .skipped => "skipped"

@[ext]
structure Outcome where
  viewModel : String
  platform : Platform
  result : Result
  deriving DecidableEq, Repr

namespace Outcome

def status (o : Outcome) : Status :=
  match o.result with
  | .generated _ ds => if ds.isEmpty then .clean else .diagnostics
  | .failed _ => .failed
  | .skipped => .skipped

def path? (o : Outcome) : Option Path :=
  match o.result with
  | .generated path _ => some path
  | _ => none

def diagnostics (o : Outcome) : List Diagnostic :=
  match o.result with
  | .generated _ ds => ds
  | _ => []

def error? (o : Outcome) : Option String :=
  match o.result with
  | .failed error => some error
  | _ => none

def isGenerated (o : Outcome) : Bool := o.path?.isSome

theorem path?_isSome_iff (o : Outcome) :
    o.path?.isSome ↔ o.status = .clean ∨ o.status = .diagnostics := by
  unfold path? status
  cases o.result with
  | generated path ds => cases ds <;> simp
  | failed error => simp
  | skipped => simp

end Outcome

structure Summary where
  viewModels : Nat
  platforms : List Platform
  outcomes : List Outcome
  isDryRun : Bool
  deriving DecidableEq, Repr

namespace Summary

def count (s : Summary) (status : Status) : Nat := s.outcomes.countP fun o => o.status = status

def failures (s : Summary) : List Outcome := s.outcomes.filter fun o => o.status = .failed

def hasFailures (s : Summary) : Bool := !s.failures.isEmpty

/-- How many adapters were generated for a platform. -/
def generatedFor (s : Summary) (platform : Platform) : Nat :=
  s.outcomes.countP fun o => o.isGenerated && o.platform = platform

/-- The platforms of the run in order, with the numbers of their adapters. -/
def generated (s : Summary) : List (Platform × Nat) :=
  s.platforms.map fun p => (p, s.generatedFor p)

/-- The first outcome of a pair. -/
def outcomeFor? (s : Summary) (viewModel : String) (platform : Platform) : Option Outcome :=
  s.outcomes.find? fun o => o.viewModel == viewModel && o.platform == platform

/-- The last line of a run's log. -/
def report (s : Summary) : String :=
  "Generated " ++
    ", ".intercalate (s.generated.map fun g => g.1.name ++ "=" ++ toString g.2) ++ "; " ++
    toString (s.count .clean) ++ " clean, " ++
    toString (s.count .diagnostics) ++ " with diagnostics, " ++
    toString s.failures.length ++ " failed" ++ (if s.isDryRun then " (dry run)" else "")

theorem generated_platforms (s : Summary) : s.generated.map Prod.fst = s.platforms := by
  simp [generated, Function.comp_def]

end Summary
end ViewAdapters
