import ViewAdapters.Adapter.Generation
import ViewAdapters.Emission.Outcome
import ViewAdapters.Log

/-!
# Plans of runs

Which pairs of a view-model and a platform are generated. A pair is left out if
the view-model is excluded, and fails if an earlier view-model that is not
excluded has claimed the file name on that platform.

* `plan_length`: there is a slot for every pair.
-/

namespace ViewAdapters.Emission

/-- What an emitter makes of a view-model. -/
structure Generated where
  text : String
  diagnostics : List Diagnostic

/-- What generates the adapters of a platform and the directory that they are put in. -/
structure Emitter where
  platform : Platform
  directory : String
  /-- The adapter of a view-model, or the message of a failure. -/
  generate : ViewModel → Except String Generated

/-- The emitter of a backend whose texts are made by a renderer. -/
def Emitter.ofBackendBy {δ : Type} [ToString δ] (render : Renderer δ) (b : Backend) : Emitter where
  platform := b.platform
  directory := b.directory
  generate := fun v =>
    match b.generateBy render v with
    | .ok a => .ok ⟨a.text, a.diagnostics⟩
    | .error fault => .error fault.message

def Emitter.ofBackend (b : Backend) : Emitter := .ofBackendBy UserTemplate.renderer b

/-- The names of the view-models that produce file names on platforms. -/
abbrev Claims := List ((Platform × String) × String)

def Claims.owner? (claims : Claims) (platform : Platform) (fileName : String) : Option String :=
  claims.lookup (platform, fileName)

def Claims.claim (claims : Claims) (platform : Platform) (fileName owner : String) : Claims :=
  ((platform, fileName), owner) :: claims

/-- What is to be done with a pair. -/
inductive Slot where
  | excluded
  /-- Another view-model produces the file. -/
  | taken (fileName owner : String)
  | job
  deriving DecidableEq, Repr

/-- A view-model with an emitter of a requested platform. -/
abbrev Pair := ViewModel × Emitter

def Pair.fileName (p : Pair) : String := p.1.fileName p.2.platform

/-- The slot of a pair after the claims so far. -/
def slotOf (claims : Claims) (p : Pair) : Slot :=
  if p.1.excluded.get p.2.platform then .excluded
  else
    match claims.owner? p.2.platform p.fileName with
    | some owner => .taken p.fileName owner
    | none => .job

/-- The claims after a pair. -/
def claimsAfter (claims : Claims) (p : Pair) : Claims :=
  match slotOf claims p with
  | .job => claims.claim p.2.platform p.fileName p.1.name
  | _ => claims

/-- The slots of pairs in order. -/
def plan (claims : Claims) : List Pair → List (Pair × Slot)
  | [] => []
  | p :: rest => (p, slotOf claims p) :: plan (claimsAfter claims p) rest

/-- The pairs of view-models and platforms, view-model by view-model. -/
def pairs (emitters : List Emitter) (vs : List ViewModel) : List Pair :=
  vs.flatMap fun v => emitters.map fun e => (v, e)

def takenMessage (fileName owner : String) : String :=
  fileName ++ " is already produced by " ++ owner

/-- What the log says of a slot. -/
def slotLog (p : Pair) : Slot → Log
  | .excluded => [⟨.info, .emission,
      "Skipping " ++ p.1.name ++ " for " ++ p.2.platform.name ++ " (excluded)"⟩]
  | .taken fileName owner => [⟨.error, .emission,
      "Cannot generate " ++ p.1.name ++ " for " ++ p.2.platform.name ++ ": " ++
        takenMessage fileName owner⟩]
  | .job => []

theorem plan_length (claims : Claims) (ps : List Pair) : (plan claims ps).length = ps.length := by
  induction ps generalizing claims with
  | nil => rfl
  | cons p r ih => simp [plan, ih]

theorem plan_pairs (claims : Claims) (ps : List Pair) : (plan claims ps).map Prod.fst = ps := by
  induction ps generalizing claims with
  | nil => rfl
  | cons p r ih => simp [plan, ih]

end ViewAdapters.Emission
