import ViewAdapters.CommandLine.Session
import ViewAdapters.Proofs.Adapter.Parts

/-!
# Backends of a session

A session works with the built-in backends. They are made whenever there is a generation time.

* `backendsOf_eq_ok_iff`: the backends of a session, one for each platform.
* `backendsOf_eq_error_iff`: they are only lacking when there is no generation time.
-/

namespace ViewAdapters.CommandLine

/-- The backend of a platform with a configuration, templates and a generation time. -/
def backendOf (c : Configuration) (templates : UserTemplate.Templates)
    (time : Calendar.UtcSecond) (platform : Platform) : Backend where
  target := .ofMap c.namespaces platform
  directory := (shown (c.directories.lookup platform.name)).getD platform.standardDirectory
  package :=
    (shown (match platform with
      | .android => c.settings.android.package
      | .ios => none)).getD Backend.standardPackage
  time
  templates

/-- The templates of a configuration. -/
def templatesOf (c : Configuration) (files : Files) : UserTemplate.Templates :=
  c.templates.elim [] (templatesIn files)

section Backends

variable {s : Session} {c : Configuration} {given : Option Calendar.DateTime} {files : Files}

theorem backendsOf_eq (s : Session) (c : Configuration) (given : Option Calendar.DateTime)
    (files : Files) :
    backendsOf s c given files =
      ((generationTime given s.epoch s.present).mapError fun f => .factory (.time f)).map
        fun time => Platform.all.map (backendOf c (templatesOf c files) time) := by
  unfold backendsOf discoverBackends
  cases hTime : generationTime given s.epoch s.present with
  | error fault =>
    simp [Registry.builtIn, Platform.all, Registry.addPlugins, makeBackends, Factory.call,
      Backend.make, DiscoveryOptions.forBackend, hTime, bind, Except.bind, Except.map,
      Except.mapError]
  | ok time =>
    simp [Registry.builtIn, Platform.all, Registry.addPlugins, makeBackends, Factory.call,
      Backend.make, DiscoveryOptions.forBackend, hTime, bind, Except.bind, Except.map,
      Except.mapError, pure, Except.pure, backendOf, templatesOf, Platform.name]

theorem backendsOf_eq_ok_iff {backends : List Backend} :
    backendsOf s c given files = .ok backends ↔
      ∃ time, generationTime given s.epoch s.present = .ok time ∧
        backends = Platform.all.map (backendOf c (templatesOf c files) time) := by
  simp only [backendsOf_eq, map_eq_ok, mapError_eq_ok]

/-- No backend is lacking, and none is unknown, as none is asked for by its name. -/
theorem backendsOf_eq_error_iff {fault : DiscoveryFault Empty} :
    backendsOf s c given files = .error fault ↔
      ∃ f, generationTime given s.epoch s.present = .error f ∧ fault = .factory (.time f) := by
  rw [backendsOf_eq]
  cases generationTime given s.epoch s.present with
  | error f => simp [Except.mapError, Except.map, eq_comm]
  | ok time => simp [Except.mapError, Except.map]

end Backends

end ViewAdapters.CommandLine
