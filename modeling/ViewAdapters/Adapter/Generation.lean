import ViewAdapters.Adapter.UserTemplate

/-!
# Generation of adapters

A backend makes the adapters of one platform. It has a fixed time, so the same
view-model always gives the same adapter. The text is made by a renderer, which
follows the templates of a user.
-/

namespace ViewAdapters

structure Adapter where
  viewModel : String
  adapterName : String
  platform : Platform
  fileName : String
  text : String
  imports : ImportSet
  capabilities : CapabilitySet
  diagnostics : List Diagnostic

/-- Why a template gives no text. -/
inductive RenderFault (δ : Type) where
  /-- The template is refused, or what it asks for. -/
  | template (message : String)
  | other (failure : δ)
  deriving DecidableEq, Repr

/-- What makes the text of an adapter of its content, with the templates of a user. -/
abbrev Renderer (δ : Type) := UserTemplate.Templates → Content → Except (RenderFault δ) String

/-- The renderer of simple templates. -/
def UserTemplate.renderer : Renderer UserTemplate.Fault := fun templates c =>
  (UserTemplate.render templates c).mapError fun
    | .undecodable fault => .other (.undecodable fault)
    | .numeral fault => .other (.numeral fault)
    | fault => .template fault.message

/-- Why an adapter cannot be generated. -/
inductive GenerationFault (δ : Type) where
  | type (fault : Target.Fault)
  /-- An integer that is to be shown has no text. -/
  | numeral (fault : Text.NumeralFault)
  | template (platform : Platform) (viewModel message : String)
  /-- The renderer has failed in another way. -/
  | renderer (failure : δ)
  deriving DecidableEq, Repr

def GenerationFault.message {δ : Type} [ToString δ] : GenerationFault δ → String
  | .type fault => fault.message
  | .numeral fault => fault.message
  | .template platform viewModel message =>
    "Failed to render " ++ platform.name ++ " adapter for " ++ viewModel ++ ": " ++ message
  | .renderer failure => toString failure

namespace GenerationFault

variable {δ : Type}

def ofAssembly : Assembly.Fault → GenerationFault δ
  | .type fault => .type fault
  | .numeral fault => .numeral fault

def ofRendering (platform : Platform) (viewModel : String) : RenderFault δ → GenerationFault δ
  | .template message => .template platform viewModel message
  | .other failure => .renderer failure

end GenerationFault

namespace Platform

def fileExtension : Platform → String
  | .android => "kt"
  | .ios => "swift"

/-- The directory of a platform's adapters, unless another is configured. -/
def standardDirectory : Platform → String
  | .android => "android"
  | .ios => "iOS"

/-- The ending of the names of a platform's adapter files. -/
def fileEnding (p : Platform) : String := "Adapter." ++ p.fileExtension

/-- The pattern of the names of a platform's adapter files. -/
def filePattern (p : Platform) : String := "*" ++ p.fileEnding

end Platform

def ViewModel.fileName (v : ViewModel) (platform : Platform) : String :=
  v.adapterName ++ "." ++ platform.fileExtension

/-- What makes the adapters of a platform and where they are put. -/
structure Backend where
  target : Target
  directory : String
  package : String
  time : Calendar.UtcSecond
  templates : UserTemplate.Templates

namespace Backend

def platform (b : Backend) : Platform := b.target.platform

def standardPackage : String := "com.x3squaredcircles.adapters"

/-- The adapter with a content and a text. -/
def adapterOf (b : Backend) (v : ViewModel) (assembly : Assembly) (text : String) : Adapter where
  viewModel := v.name
  adapterName := v.adapterName
  platform := b.platform
  fileName := v.fileName b.platform
  text := text
  imports := assembly.content.imports
  capabilities := assembly.capabilities
  diagnostics := assembly.diagnostics.items

/-- The adapter of a view-model with the text that a renderer makes. -/
def generateBy {δ : Type} (render : Renderer δ) (b : Backend) (v : ViewModel) :
    Except (GenerationFault δ) Adapter := do
  let assembly ← (Assembly.make b.target b.package b.time v).mapError .ofAssembly
  let text ← (render b.templates assembly.content).mapError (.ofRendering b.platform v.name)
  return b.adapterOf v assembly text

def generate (b : Backend) (v : ViewModel) :
    Except (GenerationFault UserTemplate.Fault) Adapter :=
  b.generateBy UserTemplate.renderer v

end Backend
end ViewAdapters
