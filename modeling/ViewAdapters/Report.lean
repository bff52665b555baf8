import ViewAdapters.Document.Json
import ViewAdapters.Emission.Outcome
import ViewAdapters.Usage

/-!
# Reports

The JSON forms of what the program reports: the summary of a run and the usage
of attributes.
-/

namespace ViewAdapters

def Diagnostic.json (d : Diagnostic) : Json := .object [
  ("code", .text d.code), ("member", .text d.member), ("message", .text d.message),
  ("platform", .text d.platform)]

def Outcome.json (o : Outcome) : Json := .object [
  ("view_model", .text o.viewModel), ("platform", .text o.platform.name),
  ("status", .text o.status.name), ("path", .ofOption (o.path?.map Path.text)),
  ("diagnostics", .list (o.diagnostics.map Diagnostic.json)), ("error", .ofOption o.error?)]

def Summary.json (s : Summary) : Json := .object [
  ("total_view_models", .number s.viewModels),
  ("platforms", .list (s.platforms.map fun p => .text p.name)),
  ("generated", .object (s.generated.map fun g => (g.1.name, .number g.2))),
  ("clean", .number (s.count .clean)),
  ("with_diagnostics", .number (s.count .diagnostics)),
  ("failures", .number s.failures.length),
  ("skipped", .number (s.count .skipped)),
  ("dry_run", .bool s.isDryRun),
  ("outcomes", .list (s.outcomes.map Outcome.json))]

def Usage.json (u : Usage) : Json := .object [
  ("total_view_models", .number u.viewModels),
  ("view_models_with_attributes", .number u.viewModelsWithAttributes),
  ("properties", .number u.properties),
  ("commands", .number u.commands),
  ("members_by_attribute",
    .object (AttributeKind.all.map fun kind => (kind.name, .number (u.members kind))))]

end ViewAdapters
