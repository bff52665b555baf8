import ViewAdapters.Adapter.Discovery
import ViewAdapters.Order.SortedMap
import ViewAdapters.Proofs.Adapter.Parts
import ViewAdapters.Proofs.Order.Repeats

/-!
# Enabled backends

Which backends a run gets from its plugins and the names that are enabled. The registry is made of
all plugins first, so one that holds no factory stops everything, enabled or not. Then the enabled
factories are called in the order in which their names were first given.

* `Registry.IsOverride.unique`: entries lead to one registry.
* `Registry.addPlugins_of_isOf`, `Registry.addPlugins_of_firstRefuses`: what plugins lead to.
* `makeBackends_of_returns`, `makeBackends_of_reaches`: what the calls of factories lead to.
* `misses_sortedMissing`, `Misses.unique`: the names that discovery complains about.
* `discovers_or_isInterrupted`: all that discovery leads to.
-/

namespace ViewAdapters

variable {ε β : Type}

/-! ## Registries -/

namespace Registry

/-- A registry in which each name of some entries stands once, where the entries first give it, and
has the factory that they give it last. -/
structure IsOverride (entries registry : Registry ε β) : Prop where
  names : registry.map Prod.fst = (entries.map Prod.fst).eraseDups
  factories : ∀ name, registry.lookup name = entries.reverse.lookup name

/-- Registries with the same names, each once, and the same factory for each name are equal. -/
theorem eq_of_lookup {r s : Registry ε β} (hNodup : (r.map Prod.fst).Nodup)
    (hNames : r.map Prod.fst = s.map Prod.fst)
    (hLookup : ∀ name ∈ r.map Prod.fst, r.lookup name = s.lookup name) : r = s := by
  induction r generalizing s with
  | nil => exact (List.map_eq_nil_iff.1 hNames.symm).symm
  | cons e r ih =>
    cases s with
    | nil => contradiction
    | cons e' s =>
      rw [List.map_cons, List.map_cons, List.cons.injEq] at hNames
      rw [List.map_cons, List.nodup_cons] at hNodup
      have hFirst := hLookup e.1 (by simp)
      rw [SortedMap.lookup_cons, SortedMap.lookup_cons, if_pos rfl, if_pos hNames.1] at hFirst
      have hRest : r = s := by
        refine ih hNodup.2 hNames.2 fun name hName => ?_
        have hOther : name ≠ e.1 := fun hSame => hNodup.1 (hSame ▸ hName)
        have hLater := hLookup name (List.mem_cons_of_mem _ hName)
        rwa [SortedMap.lookup_cons, SortedMap.lookup_cons, if_neg hOther,
          if_neg (hNames.1 ▸ hOther)] at hLater
      rw [hRest, Prod.ext hNames.1 (Option.some.inj hFirst)]

/-- Entries lead to one registry at most. -/
theorem IsOverride.unique {entries r s : Registry ε β} (h : IsOverride entries r)
    (h' : IsOverride entries s) : r = s :=
  eq_of_lookup (h.names ▸ Repeats.nodup_eraseDups _) (h.names.trans h'.names.symm)
    fun name _ => (h.factories name).trans (h'.factories name).symm

theorem isOverride_builtIn : IsOverride builtIn (builtIn : Registry ε β) := by
  refine ⟨rfl, fun name => ?_⟩
  simp only [builtIn, Platform.all, List.map_cons, List.map_nil, List.reverse_cons,
    List.reverse_nil, List.nil_append, List.cons_append, SortedMap.lookup_cons]
  by_cases hAndroid : name = Platform.android.name
  · have hIos : name ≠ Platform.ios.name := by
      rw [hAndroid]
      decide
    rw [if_pos hAndroid, if_neg hIos, if_pos hAndroid]
  · rw [if_neg hAndroid, if_neg hAndroid]

/-- One more entry takes the place of its name, or the last place. -/
theorem IsOverride.set {entries registry : Registry ε β} (h : IsOverride entries registry)
    (e : String × Factory ε β) : IsOverride (entries ++ [e]) (registry.set e.1 e.2) := by
  constructor
  · rw [Table.keys_set, List.map_append, List.map_singleton, Repeats.eraseDups_concat, h.names]
    simp only [List.mem_eraseDups]
  · intro name
    rw [Table.lookup_set, List.reverse_append, List.reverse_singleton, List.singleton_append,
      SortedMap.lookup_cons, h.factories]

theorem IsOverride.setAll {entries registry : Registry ε β} (h : IsOverride entries registry)
    (added : Registry ε β) : IsOverride (entries ++ added) (registry.setAll added) := by
  unfold Table.setAll
  induction added generalizing entries registry with
  | nil => rwa [List.append_nil]
  | cons e rest ih =>
    rw [List.foldl_cons, List.append_cons]
    exact ih (h.set e)

end Registry

/-! ## Plugins -/

namespace Plugin

/-- The entry that a plugin with a factory adds, whose name does not depend on case. -/
structure Adds (p : Plugin ε β) (e : String × Factory ε β) : Prop where
  factory : p.loaded = .factory e.2
  name : e.1 = Text.lower p.name

/-- The fault of a plugin that cannot be loaded or holds nothing that can be called. -/
inductive Refuses (p : Plugin ε β) : DiscoveryFault ε → Prop
  | unloadable {message : String} (h : p.loaded = .failure message) :
      Refuses p (.unloadable p.name message)
  | notCallable (h : p.loaded = .notCallable) : Refuses p (.noFactory p.name)

end Plugin

/-- The registry of a run with plugins: the built-in backends, overridden by the plugins. -/
def Registry.IsOf (plugins : List (Plugin ε β)) (registry : Registry ε β) : Prop :=
  ∃ added : Registry ε β, List.Forall₂ Plugin.Adds plugins added ∧
    Registry.IsOverride (Registry.builtIn ++ added) registry

/-- The first of some plugins that has no factory has a fault. -/
def Plugin.FirstRefuses (plugins : List (Plugin ε β)) (fault : DiscoveryFault ε) : Prop :=
  ∃ front p back, plugins = front ++ p :: back ∧ (∀ q ∈ front, ∃ e, q.Adds e) ∧ p.Refuses fault

namespace Registry

section Plugins

variable {registry : Registry ε β} {plugins : List (Plugin ε β)} {fault : DiscoveryFault ε}

/-- A plugin with a factory sets its name. -/
theorem addPlugins_cons_of_adds {p : Plugin ε β} {e : String × Factory ε β} (h : p.Adds e)
    (registry : Registry ε β) (plugins : List (Plugin ε β)) :
    registry.addPlugins (p :: plugins) = addPlugins (registry.set e.1 e.2) plugins := by
  rw [addPlugins, h.factory, h.name]

/-- A plugin without a factory stops the others. -/
theorem addPlugins_cons_of_refuses {p : Plugin ε β} (h : p.Refuses fault) (registry : Registry ε β)
    (plugins : List (Plugin ε β)) : registry.addPlugins (p :: plugins) = .error fault := by
  cases h with
  | unloadable h => rw [addPlugins, h]
  | notCallable h => rw [addPlugins, h]

/-- A plugin holds a factory or it does not. -/
theorem adds_or_refuses (p : Plugin ε β) : (∃ e, p.Adds e) ∨ ∃ fault, p.Refuses fault := by
  cases hLoaded : p.loaded with
  | factory f => exact .inl ⟨(Text.lower p.name, f), hLoaded, rfl⟩
  | notCallable => exact .inr ⟨_, .notCallable hLoaded⟩
  | failure message => exact .inr ⟨_, .unloadable hLoaded⟩

theorem addPlugins_of_adds {added : Registry ε β} (h : List.Forall₂ Plugin.Adds plugins added)
    (registry : Registry ε β) :
    registry.addPlugins plugins = .ok (registry.setAll added) := by
  unfold Table.setAll
  induction h generalizing registry with
  | nil => rfl
  | cons hHead _ ih => rw [addPlugins_cons_of_adds hHead, ih, List.foldl_cons]

/-- The first plugin without a factory is the one that is told. -/
theorem addPlugins_of_firstRefuses (h : Plugin.FirstRefuses plugins fault)
    (registry : Registry ε β) : registry.addPlugins plugins = .error fault := by
  obtain ⟨front, p, back, rfl, hFront, hRefuses⟩ := h
  -- The plugins before it change the registry, which its fault does not depend on.
  induction front generalizing registry with
  | nil => exact addPlugins_cons_of_refuses hRefuses registry back
  | cons q front ih =>
    obtain ⟨e, hAdds⟩ := hFront q (by simp)
    rw [List.cons_append, addPlugins_cons_of_adds hAdds]
    exact ih _ fun q hq => hFront q (List.mem_cons_of_mem _ hq)

/-- Either all plugins add an entry, or a first one does not. -/
theorem exists_adds_or_firstRefuses (plugins : List (Plugin ε β)) :
    (∃ added, List.Forall₂ Plugin.Adds plugins added) ∨
      ∃ fault, Plugin.FirstRefuses plugins fault := by
  induction plugins with
  | nil => exact .inl ⟨[], .nil⟩
  | cons p rest ih =>
    rcases adds_or_refuses p with ⟨e, hAdds⟩ | ⟨fault, hRefuses⟩
    · rcases ih with ⟨added, hRest⟩ | ⟨fault, front, q, back, rfl, hFront, hRefuses⟩
      · exact .inl ⟨e :: added, .cons hAdds hRest⟩
      · exact .inr ⟨fault, p :: front, q, back, rfl,
          List.forall_mem_cons.2 ⟨⟨e, hAdds⟩, hFront⟩, hRefuses⟩
    · exact .inr ⟨fault, [], p, rest, rfl, by simp, hRefuses⟩

theorem addPlugins_of_isOf (h : IsOf plugins registry) :
    addPlugins builtIn plugins = .ok registry := by
  obtain ⟨added, hAdds, hOverride⟩ := h
  rw [addPlugins_of_adds hAdds, (isOverride_builtIn.setAll added).unique hOverride]

/-- A plugin replaces a built-in backend in its place, and a name of its own comes last. -/
example (windows android : Factory ε β) :
    (addPlugins builtIn [⟨"Windows", .factory windows⟩, ⟨"Android", .factory android⟩]).map
      (·.map Prod.fst) = .ok ["android", "ios", "windows"] := by cbv

/-- Either plugins lead to a registry, or a first one has no factory. -/
theorem exists_isOf_or_firstRefuses (plugins : List (Plugin ε β)) :
    (∃ registry, IsOf plugins registry) ∨ ∃ fault, Plugin.FirstRefuses plugins fault :=
  (exists_adds_or_firstRefuses plugins).imp_left fun ⟨added, hAdds⟩ =>
    ⟨_, added, hAdds, isOverride_builtIn.setAll added⟩

end Plugins

end Registry

/-! ## Calls of factories -/

variable (wrap : Backend → β)

/-- The backend that a factory gives under its name in a run. -/
structure Returns (o : DiscoveryOptions) (e : String × Factory ε β) (b : β) : Prop where
  returns : e.2.call wrap (o.forBackend e.1 e.2) = .ok (some b)
  /-- The factory is given the directory of its own name. -/
  directory : (o.forBackend e.1 e.2).directory = o.directories.lookup e.1
  /-- A built-in backend has that directory, or its standard one if that is empty or missing. -/
  builtIn : ∀ platform, e.2 = .builtIn platform → ∃ made, b = wrap made ∧
    made.platform = platform ∧
    made.directory = (shown (o.directories.lookup e.1)).getD platform.standardDirectory

/-- The fault that a factory raises under its name in a run. -/
structure Raises (o : DiscoveryOptions) (e : String × Factory ε β) (fault : FactoryFault ε) :
    Prop where
  raises : e.2.call wrap (o.forBackend e.1 e.2) = .error fault
  /-- A built-in backend can only lack a generation time. -/
  builtIn : ∀ platform, e.2 = .builtIn platform → ∃ lacking, fault = .time lacking ∧
    generationTime o.given o.epoch o.present = .error lacking

/-- A factory is called after those before it have given backends. -/
def Reaches (o : DiscoveryOptions) (called : Registry ε β) (e : String × Factory ε β) : Prop :=
  ∃ front back made, called = front ++ e :: back ∧ List.Forall₂ (Returns wrap o) front made

/-- The fault of a factory that gives no backend. -/
inductive Fails (o : DiscoveryOptions) (e : String × Factory ε β) : DiscoveryFault ε → Prop
  | noBackend (h : e.2.call wrap (o.forBackend e.1 e.2) = .ok none) : Fails o e (.noBackend e.1)
  | raises {fault : FactoryFault ε} (h : Raises wrap o e fault) : Fails o e (.factory fault)

section Calls

variable {wrap} {o : DiscoveryOptions} {e : String × Factory ε β} {called : Registry ε β}

/-- A factory returns a backend exactly if its call does. -/
theorem returns_iff {b : β} :
    Returns wrap o e b ↔ e.2.call wrap (o.forBackend e.1 e.2) = .ok (some b) := by
  refine ⟨Returns.returns, fun h => ⟨h, rfl, fun platform hBuiltIn => ?_⟩⟩
  rw [hBuiltIn, Factory.call, mapError_eq_ok, map_eq_ok] at h
  obtain ⟨made, hMade, hSame⟩ := h
  cases hSame
  obtain ⟨time, -, hTime⟩ := bind_eq_ok.1 hMade
  cases hTime
  exact ⟨_, rfl, rfl, rfl⟩

/-- A factory raises what its call raises. -/
theorem raises_iff {fault : FactoryFault ε} :
    Raises wrap o e fault ↔ e.2.call wrap (o.forBackend e.1 e.2) = .error fault := by
  refine ⟨Raises.raises, fun h => ⟨h, fun platform hBuiltIn => ?_⟩⟩
  rw [hBuiltIn, Factory.call, mapError_eq_error] at h
  obtain ⟨lacking, hMade, rfl⟩ := h
  rw [map_eq_error, Backend.make, bind_eq_error] at hMade
  rcases hMade with hTime | ⟨time, -, hMade⟩
  · exact ⟨lacking, rfl, hTime⟩
  · contradiction

/-- Backends are made one after the other, each after the call of its factory. -/
theorem makeBackends_cons (wrap : Backend → β) (o : DiscoveryOptions) (e : String × Factory ε β)
    (rest : Registry ε β) :
    makeBackends wrap o (e :: rest) =
      match e.2.call wrap (o.forBackend e.1 e.2) with
      | .error fault => .error (.factory fault)
      | .ok none => .error (.noBackend e.1)
      | .ok (some b) => (makeBackends wrap o rest).map (b :: ·) := by
  rw [makeBackends]
  cases e.2.call wrap (o.forBackend e.1 e.2) with
  | error fault => rfl
  | ok made =>
    cases made with
    | none => rfl
    | some b => cases makeBackends wrap o rest <;> rfl

theorem makeBackends_cons_of_returns {b : β} (h : Returns wrap o e b) (rest : Registry ε β) :
    makeBackends wrap o (e :: rest) = (makeBackends wrap o rest).map (b :: ·) := by
  rw [makeBackends_cons, h.returns]

theorem makeBackends_cons_of_fails {fault : DiscoveryFault ε} (h : Fails wrap o e fault)
    (rest : Registry ε β) : makeBackends wrap o (e :: rest) = .error fault := by
  cases h with
  | noBackend h => rw [makeBackends_cons, h]
  | raises h => rw [makeBackends_cons, h.raises]

/-- The call of a factory returns a backend or ends the making. -/
theorem returns_or_fails (wrap : Backend → β) (o : DiscoveryOptions) (e : String × Factory ε β) :
    (∃ b, Returns wrap o e b) ∨ ∃ fault, Fails wrap o e fault := by
  cases h : e.2.call wrap (o.forBackend e.1 e.2) with
  | error fault => exact .inr ⟨_, .raises (raises_iff.2 h)⟩
  | ok made =>
    cases made with
    | none => exact .inr ⟨_, .noBackend h⟩
    | some b => exact .inl ⟨b, returns_iff.2 h⟩

theorem makeBackends_of_returns {made : List β} (h : List.Forall₂ (Returns wrap o) called made) :
    makeBackends wrap o called = .ok made := by
  induction h with
  | nil => rfl
  | cons hHead _ ih =>
    rw [makeBackends_cons_of_returns hHead, ih]
    rfl

/-- The first factory that fails is the one that is told. -/
theorem makeBackends_of_reaches {fault : DiscoveryFault ε} (h : Reaches wrap o called e)
    (hFails : Fails wrap o e fault) : makeBackends wrap o called = .error fault := by
  obtain ⟨front, back, made, rfl, hMade⟩ := h
  induction hMade with
  | nil => exact makeBackends_cons_of_fails hFails back
  | cons hHead _ ih =>
    rw [List.cons_append, makeBackends_cons_of_returns hHead, ih]
    rfl

/-- Either all factories give a backend, or one that is called does not. -/
theorem exists_returns_or_reaches (wrap : Backend → β) (o : DiscoveryOptions)
    (called : Registry ε β) :
    (∃ made, List.Forall₂ (Returns wrap o) called made) ∨
      ∃ e fault, Reaches wrap o called e ∧ Fails wrap o e fault := by
  induction called with
  | nil => exact .inl ⟨[], .nil⟩
  | cons e rest ih =>
    rcases returns_or_fails wrap o e with ⟨b, hReturns⟩ | ⟨fault, hFails⟩
    · rcases ih with ⟨made, hRest⟩ | ⟨e', fault, ⟨front, back, made, rfl, hMade⟩, hFails⟩
      · exact .inl ⟨b :: made, .cons hReturns hRest⟩
      · exact .inr ⟨e', fault, ⟨e :: front, back, b :: made, rfl, .cons hReturns hMade⟩, hFails⟩
    · exact .inr ⟨e, fault, ⟨[], rest, [], rfl, .nil⟩, hFails⟩

end Calls

/-! ## Enabled names -/

/-- A name is enabled if it is one of the names given, but for their case, or if none are given. -/
def Enables (enabled : Option (List String)) (name : String) : Prop :=
  ∀ names ∈ enabled, ∃ asked ∈ names, Text.lower asked = name

instance (enabled : Option (List String)) : DecidablePred (Enables enabled) := fun name =>
  inferInstanceAs (Decidable (∀ names ∈ enabled, ∃ asked ∈ names, Text.lower asked = name))

/-- The names given that a registry does not have, without case, in order and each once. -/
structure Misses (enabled : Option (List String)) (registry : Registry ε β)
    (missing : List String) : Prop where
  sorted : missing.Pairwise (· < ·)
  mem_iff : ∀ name, name ∈ missing ↔
    (∃ names ∈ enabled, ∃ asked ∈ names, Text.lower asked = name) ∧
      name ∉ registry.map Prod.fst

/-- The names given that a registry does not have, without case and as often as they are given. -/
def missingNames (enabled : Option (List String)) (registry : Registry ε β) : List String :=
  ((enabled.map (·.map Text.lower)).getD []).filter
    fun name => !(registry.any fun e => e.1 == name)

/-- The names that discovery complains about. -/
def sortedMissing (enabled : Option (List String)) (registry : Registry ε β) :
    SortedSet fun name : String => name :=
  .ofList (missingNames enabled registry)

section Names

variable {enabled : Option (List String)} {registry : Registry ε β}

/-- Enabled names are compared in small letters. -/
theorem all_contains_eq (enabled : Option (List String)) (name : String) :
    (enabled.map (·.map Text.lower)).all (·.contains name) = decide (Enables enabled name) := by
  cases enabled with
  | none => simp [Enables]
  | some names => simp [Enables]

/-- The names that are told are those that are missing. -/
theorem mem_sortedMissing (enabled : Option (List String)) (registry : Registry ε β)
    (name : String) :
    name ∈ (sortedMissing enabled registry).items ↔ name ∈ missingNames enabled registry :=
  SortedSet.mem_ofList Function.injective_id

theorem misses_sortedMissing (enabled : Option (List String)) (registry : Registry ε β) :
    Misses enabled registry (sortedMissing enabled registry).items := by
  refine ⟨(sortedMissing enabled registry).sorted, fun name => ?_⟩
  rw [mem_sortedMissing, missingNames]
  have hAny : (registry.any fun e => e.1 == name) = true ↔ name ∈ registry.map Prod.fst := by
    rw [List.any_eq_true, List.mem_map]
    simp only [beq_iff_eq]
  rw [List.mem_filter, Bool.not_eq_true', ← Bool.not_eq_true, hAny]
  cases enabled with
  | none => simp
  | some names => simp

/-- The missing names have one order. -/
theorem Misses.unique {missing missing' : List String} (h : Misses enabled registry missing)
    (h' : Misses enabled registry missing') : missing = missing' :=
  StrictList.eq_of_mem_iff h.sorted h'.sorted (fun _ => String.lt_irrefl _) String.lt_trans
    fun name => (h.mem_iff name).trans (h'.mem_iff name).symm

end Names

/-! ## Discovery -/

/-- What discovery leads to if every factory returns, be it a backend or something else. -/
inductive Discovers (o : DiscoveryOptions) (plugins : List (Plugin ε β))
    (enabled : Option (List String)) : Except (DiscoveryFault ε) (List β) → Prop
  /-- A plugin without a factory stops discovery, whether or not its name is enabled. -/
  | refused {fault : DiscoveryFault ε} (h : Plugin.FirstRefuses plugins fault) :
      Discovers o plugins enabled (.error fault)
  | noBackend {registry : Registry ε β} {e : String × Factory ε β}
      (hRegistry : registry.IsOf plugins)
      (hReached : Reaches wrap o (registry.filter fun e => Enables enabled e.1) e)
      (h : e.2.call wrap (o.forBackend e.1 e.2) = .ok none) :
      Discovers o plugins enabled (.error (.noBackend e.1))
  | unknown {registry : Registry ε β} {made : List β} {missing : List String}
      (hRegistry : registry.IsOf plugins)
      (hMade : List.Forall₂ (Returns wrap o) (registry.filter fun e => Enables enabled e.1) made)
      (hMissing : Misses enabled registry missing) (hSome : missing ≠ []) :
      Discovers o plugins enabled (.error (.unknown missing))
  | made {registry : Registry ε β} {made : List β} (hRegistry : registry.IsOf plugins)
      (hMade : List.Forall₂ (Returns wrap o) (registry.filter fun e => Enables enabled e.1) made)
      (hMissing : Misses enabled registry []) : Discovers o plugins enabled (.ok made)

/-- A factory raises a fault when it is called, which ends discovery. -/
def IsInterrupted (o : DiscoveryOptions) (plugins : List (Plugin ε β))
    (enabled : Option (List String)) (fault : FactoryFault ε) : Prop :=
  ∃ registry : Registry ε β, Registry.IsOf plugins registry ∧
    ∃ e, Reaches wrap o (registry.filter fun e => Enables enabled e.1) e ∧ Raises wrap o e fault

section Discovery

variable {wrap} {o : DiscoveryOptions} {plugins : List (Plugin ε β)}
  {enabled : Option (List String)} {registry : Registry ε β}
  {result : Except (DiscoveryFault ε) (List β)}

/-- Missing names are told only after the enabled backends were made. -/
theorem discoverBackends_of_isOf (h : registry.IsOf plugins) :
    discoverBackends wrap o plugins enabled =
      (makeBackends wrap o (registry.filter fun e => Enables enabled e.1)).bind fun made =>
        if (sortedMissing enabled registry).items = [] then .ok made
        else .error (.unknown (sortedMissing enabled registry).items) := by
  have hNone : (missingNames enabled registry).isEmpty ↔
      (sortedMissing enabled registry).items = [] := by
    rw [List.isEmpty_iff, List.eq_nil_iff_forall_not_mem, List.eq_nil_iff_forall_not_mem]
    simp only [mem_sortedMissing]
  rw [discoverBackends, Registry.addPlugins_of_isOf h]
  simp only [all_contains_eq]
  change (makeBackends wrap o _).bind (fun made =>
    if (missingNames enabled registry).isEmpty then .ok made
    else .error (.unknown (sortedMissing enabled registry).items)) = _
  simp only [hNone]

theorem discoverBackends_of_discovers (h : Discovers wrap o plugins enabled result) :
    discoverBackends wrap o plugins enabled = result := by
  cases h with
  | refused h =>
    rw [discoverBackends, Registry.addPlugins_of_firstRefuses h]
    rfl
  | noBackend hRegistry hReached h =>
    rw [discoverBackends_of_isOf hRegistry, makeBackends_of_reaches hReached (.noBackend h)]
    rfl
  | unknown hRegistry hMade hMissing hSome =>
    rw [hMissing.unique (misses_sortedMissing enabled _)] at hSome ⊢
    rw [discoverBackends_of_isOf hRegistry, makeBackends_of_returns hMade, Except.bind,
      if_neg hSome]
  | made hRegistry hMade hMissing =>
    rw [discoverBackends_of_isOf hRegistry, makeBackends_of_returns hMade, Except.bind,
      if_pos ((misses_sortedMissing enabled _).unique hMissing)]

theorem discoverBackends_of_isInterrupted {fault : FactoryFault ε}
    (h : IsInterrupted wrap o plugins enabled fault) :
    discoverBackends wrap o plugins enabled = .error (.factory fault) := by
  obtain ⟨registry, hRegistry, e, hReached, hFault⟩ := h
  rw [discoverBackends_of_isOf hRegistry, makeBackends_of_reaches hReached (.raises hFault)]
  rfl

/-- No outcome without an interruption is the fault of a factory. -/
theorem not_discovers_factory {fault : FactoryFault ε} :
    ¬ Discovers wrap o plugins enabled (.error (.factory fault)) := by
  intro h
  cases h with
  | refused h =>
    obtain ⟨front, p, back, -, -, hRefuses⟩ := h
    cases hRefuses

/-- Every discovery has an outcome, or is interrupted. -/
theorem exists_discovers_or_isInterrupted (wrap : Backend → β) (o : DiscoveryOptions)
    (plugins : List (Plugin ε β)) (enabled : Option (List String)) :
    (∃ result, Discovers wrap o plugins enabled result) ∨
      ∃ fault, IsInterrupted wrap o plugins enabled fault := by
  rcases Registry.exists_isOf_or_firstRefuses plugins with ⟨registry, hRegistry⟩ | ⟨fault, hRefuses⟩
  · rcases exists_returns_or_reaches wrap o (registry.filter fun e => Enables enabled e.1) with
      ⟨made, hMade⟩ | ⟨e, fault, hReached, hFails⟩
    · have hMissing := misses_sortedMissing enabled registry
      by_cases hNone : (sortedMissing enabled registry).items = []
      · exact .inl ⟨_, .made hRegistry hMade (hNone ▸ hMissing)⟩
      · exact .inl ⟨_, .unknown hRegistry hMade hMissing hNone⟩
    · cases hFails with
      | noBackend h => exact .inl ⟨_, .noBackend hRegistry hReached h⟩
      | raises h => exact .inr ⟨_, registry, hRegistry, e, hReached, h⟩
  · exact .inl ⟨_, .refused hRefuses⟩

/-- A first plugin without a factory stops discovery. Otherwise the plugins override the built-in
backends, and the enabled factories are called in the order in which their names were first given,
until one raises or gives no backend. If all give one, discovery returns their backends, unless a
name was given that no factory has. -/
theorem discovers_or_isInterrupted (wrap : Backend → β) (o : DiscoveryOptions)
    (plugins : List (Plugin ε β)) (enabled : Option (List String))
    (result : Except (DiscoveryFault ε) (List β)) :
    discoverBackends wrap o plugins enabled = result ↔
      Discovers wrap o plugins enabled result ∨
        ∃ fault, result = .error (.factory fault) ∧ IsInterrupted wrap o plugins enabled fault := by
  constructor
  · -- One of the outcomes holds of some result, and discovery gives the result of each outcome.
    rintro rfl
    rcases exists_discovers_or_isInterrupted wrap o plugins enabled with ⟨result, h⟩ | ⟨fault, h⟩
    · exact .inl (discoverBackends_of_discovers h ▸ h)
    · exact .inr ⟨fault, discoverBackends_of_isInterrupted h, h⟩
  · rintro (h | ⟨fault, rfl, h⟩)
    · exact discoverBackends_of_discovers h
    · exact discoverBackends_of_isInterrupted h

/-- Options whose text of seconds is no number. -/
def soon : DiscoveryOptions where
  namespaces := .standard
  templates := []
  given := none
  epoch := some "soon"
  present := ⟨86400, by decide, by decide⟩
  directories := []
  package := none

/-- Without a generation time the first built-in backend raises, and discovery ends with that. -/
theorem soon_interrupts_discovery :
    ¬ ∀ (o : DiscoveryOptions) (plugins : List (Plugin Empty Backend)) enabled,
      Discovers id o plugins enabled (discoverBackends id o plugins enabled) := by
  intro h
  have hSoon : discoverBackends id soon ([] : List (Plugin Empty Backend)) none =
      .error (.factory (.time (.badEpoch "soon"))) := rfl
  exact not_discovers_factory (hSoon ▸ h soon [] none)

end Discovery

end ViewAdapters
