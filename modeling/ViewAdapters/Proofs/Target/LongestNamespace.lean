import Mathlib.Data.List.Nodup
import ViewAdapters.Proofs.Text.Identifiers
import ViewAdapters.Target.Namespace

/-!
# The longest namespace of a name

A table of namespaces replaces a name by the entry of the longest namespace that holds it. No
other entry has a say, in whatever order the entries stand.

* `NamespaceTable.longest?_eq_some_iff`: the entry that is chosen is the one that decides.
* `NamespaceMap.mem_get_configured_iff`: the entries of a configured table.
* `Target.reference_of_decides`: what a name is replaced by.
* `Target.longest?_eq_of_differsBelow`: entries that do not decide can come, go and move.
* `Target.replaces_longest`: all that for every configuration.
-/

namespace ViewAdapters

/-! ## Names of segments -/

/-- The segments of a name, between its dots. -/
def segments (name : String) : List (List Char) := name.toList.splitOn '.'

/-- Whether the segments of a name are not empty. -/
def IsSegmented (name : String) : Prop := ∀ segment ∈ segments name, segment ≠ []

/-- A dot separates the segments on both sides of it. -/
theorem segments_append (front rest : String) :
    segments (front ++ "." ++ rest) = segments front ++ segments rest := by
  have hChars : (front ++ "." ++ rest).toList = front.toList ++ '.' :: rest.toList := by
    simp [String.toList_append]
  rw [segments, hChars]
  exact List.splitOnP_append_cons _ _ (by decide)

/-- The simple name of a type is its last segment. -/
theorem getLast?_segments (name : String) :
    (segments name).getLast? = some (Descriptor.simpleName name).toList := by
  rw [Descriptor.simpleName, Text.lastSegment, String.toList_ofList]
  exact getLast?_splitOn_dot _

theorem ne_empty_of_isSegmented {name : String} (h : IsSegmented name) : name ≠ "" := by
  rintro rfl
  exact h [] (by decide) rfl

theorem simpleName_ne_empty {name : String} (h : IsSegmented name) :
    Descriptor.simpleName name ≠ "" := by
  intro hEmpty
  refine h [] (List.mem_of_getLast? ?_) rfl
  rw [getLast?_segments, hEmpty]
  rfl

namespace NamespaceTable

/-! ## The entry that decides -/

/-- A namespace holds a name if it is the name or stands before a dot of it. -/
def Holds (source name : String) : Prop := name = source ∨ ∃ rest, name = source ++ "." ++ rest

/-- A table gives each namespace one replacement. -/
def IsUnique (table : NamespaceTable) : Prop := (table.map Prod.fst).Nodup

/-- The entry of a namespace that holds a name, where no other that does is longer. -/
structure Decides (table : NamespaceTable) (name : String) (e : String × String) : Prop where
  mem : e ∈ table
  holds : Holds e.1 name
  longest : ∀ f ∈ table, Holds f.1 name → f.1.length ≤ e.1.length

section Deciding

variable {table : NamespaceTable} {name : String} {e f : String × String}

/-- A source covers a name exactly if its segments are the first of the name. -/
theorem covers_iff {source : String} : covers source name = true ↔ Holds source name := by
  rw [covers, Bool.or_eq_true, beq_iff_eq, List.isPrefixOf_iff_prefix]
  refine or_congr_right ?_
  constructor
  · rintro ⟨rest, hRest⟩
    refine ⟨String.ofList rest, String.toList_injective ?_⟩
    simp [String.toList_append, ← hRest]
  · rintro ⟨rest, rfl⟩
    exact ⟨rest.toList, by simp [String.toList_append]⟩

theorem Holds.isPrefix {source : String} (h : Holds source name) :
    source.toList <+: name.toList := by
  rcases h with rfl | ⟨rest, rfl⟩
  · exact List.prefix_rfl
  · exact ⟨'.' :: rest.toList, by simp [String.toList_append]⟩

/-- Of one length only one source holds a name. -/
theorem Holds.eq_of_length {source source' : String} (h : Holds source name)
    (h' : Holds source' name) (hLength : source.length = source'.length) : source = source' := by
  refine String.toList_injective ?_
  have hChars : source.toList.length = source'.toList.length := by
    rw [String.length_toList, String.length_toList, hLength]
  exact (List.prefix_of_prefix_length_le h.isPrefix h'.isPrefix hChars.le).eq_of_length hChars

theorem eq_of_mem_of_fst_eq (hUnique : table.IsUnique) (he : e ∈ table) (hf : f ∈ table)
    (hSource : e.1 = f.1) : e = f :=
  List.inj_on_of_nodup_map hUnique he hf hSource

/-- One entry decides at most. -/
theorem Decides.unique (hUnique : table.IsUnique) (h : table.Decides name e)
    (h' : table.Decides name f) : e = f :=
  eq_of_mem_of_fst_eq hUnique h.mem h'.mem <| h.holds.eq_of_length h'.holds <|
    Nat.le_antisymm (h'.longest e h.mem h.holds) (h.longest f h'.mem h'.holds)

/-- The entry that is found is the longest one that holds the name. -/
theorem decides_of_longest? (h : table.longest? name = some e) : table.Decides name e := by
  obtain ⟨hCovers, hMem⟩ := longest?_covers h
  refine ⟨hMem, covers_iff.1 hCovers, fun f hf hHolds => ?_⟩
  obtain ⟨e', he', hLength⟩ := longest?_longest hf (covers_iff.2 hHolds)
  rw [h] at he'
  cases he'
  exact hLength

theorem longest?_eq_none_iff : table.longest? name = none ↔ ∀ e ∈ table, ¬Holds e.1 name := by
  constructor
  · intro hNone e he hHolds
    obtain ⟨f, hf, -⟩ := longest?_longest he (covers_iff.2 hHolds)
    rw [hNone] at hf
    cases hf
  · intro hFree
    rw [Option.eq_none_iff_forall_not_mem]
    intro e he
    exact hFree e (decides_of_longest? he).mem (decides_of_longest? he).holds

theorem longest?_eq_some_iff (hUnique : table.IsUnique) :
    table.longest? name = some e ↔ table.Decides name e := by
  refine ⟨decides_of_longest?, fun h => ?_⟩
  cases hLongest : table.longest? name with
  | none => exact absurd h.holds (longest?_eq_none_iff.1 hLongest e h.mem)
  | some f => rw [(decides_of_longest? hLongest).unique hUnique h]

/-- If any entry holds a name, one decides it. -/
theorem existsUnique_decides (hUnique : table.IsUnique) (h : ∃ e ∈ table, Holds e.1 name) :
    ∃! e, table.Decides name e := by
  obtain ⟨f, hf, hHolds⟩ := h
  obtain ⟨e, he, -⟩ := longest?_longest hf (covers_iff.2 hHolds)
  have hDecides := decides_of_longest? he
  exact ⟨e, hDecides, fun e' he' => he'.unique hUnique hDecides⟩

end Deciding

/-! ## Tables that are put together -/

/-- In a table with each namespace once, what is found is what stands there. -/
theorem mem_iff_lookup {table : NamespaceTable} {key target : String} (h : table.IsUnique) :
    (key, target) ∈ table ↔ table.lookup key = some target := by
  refine ⟨fun hMem => ?_, SortedMap.mem_of_lookup⟩
  cases hLookup : table.lookup key with
  | none => exact absurd rfl (bne_iff_ne.1 (List.lookup_eq_none_iff.1 hLookup _ hMem))
  | some other =>
    have hSame := eq_of_mem_of_fst_eq h hMem (SortedMap.mem_of_lookup hLookup) rfl
    rw [(Prod.mk.inj hSame).2]

end NamespaceTable

namespace NamespaceMap

/-- The entries configured for a platform, which may be named in several ways. -/
def entriesFor (tables : List (String × NamespaceTable)) (platform : Platform) : NamespaceTable :=
  tables.flatMap fun e => if Platform.ofText? e.1 = some platform then e.2 else []

/-- What a namespace is replaced by: what is configured for it last, else the standard. -/
def replacement? (tables : List (String × NamespaceTable)) (platform : Platform)
    (source : String) : Option String :=
  ((entriesFor tables platform).reverse.lookup source).or ((standard.get platform).lookup source)

/-- Tables for known platforms are added, each entry under its own platform. -/
theorem exists_addAll {tables : List (String × NamespaceTable)}
    (hPlatforms : ∀ e ∈ tables, Platform.ofText? e.1 ≠ none) (namespaces : NamespaceMap) :
    ∃ result, namespaces.addAll tables = .ok result ∧
      ∀ platform, result.get platform =
        (namespaces.get platform).setAll (entriesFor tables platform) := by
  induction tables generalizing namespaces with
  | nil => exact ⟨namespaces, rfl, fun _ => rfl⟩
  | cons e tables ih =>
    obtain ⟨name, entries⟩ := e
    rw [List.forall_mem_cons] at hPlatforms
    obtain ⟨named, hNamed⟩ := Option.ne_none_iff_exists'.1 hPlatforms.1
    obtain ⟨result, hResult, hEntries⟩ := ih hPlatforms.2
      (namespaces.set named ((namespaces.get named).setAll entries))
    refine ⟨result, ?_, fun platform => ?_⟩
    · rw [addAll, Platform.ofText, hNamed]
      exact hResult
    · have hFirst : entriesFor ((name, entries) :: tables) platform =
          (if named = platform then entries else []) ++ entriesFor tables platform := by
        simp [entriesFor, hNamed]
      rw [hEntries, PerPlatform.get_set, hFirst]
      split
      · rename_i hSame
        rw [hSame, Table.setAll_append]
      · rw [List.nil_append]

theorem isUnique_standard (platform : Platform) : (standard.get platform).IsUnique := by
  unfold NamespaceTable.IsUnique
  cases platform <;> decide

/-- The table of a platform gives each namespace the replacement that is configured last, or else
the standard one. -/
theorem mem_get_configured_iff {tables : List (String × NamespaceTable)}
    {namespaces : NamespaceMap} {platform : Platform}
    (h : namespaces.get platform = (standard.get platform).setAll (entriesFor tables platform)) :
    (namespaces.get platform).IsUnique ∧ ∀ source target,
      (source, target) ∈ namespaces.get platform ↔
        replacement? tables platform source = some target := by
  have hUnique : (namespaces.get platform).IsUnique :=
    h ▸ Table.nodup_keys_setAll (isUnique_standard platform) _
  refine ⟨hUnique, fun source target => ?_⟩
  rw [NamespaceTable.mem_iff_lookup hUnique, h, Table.lookup_setAll]
  rfl

/-- Entries with a namespace each can be configured in any order. -/
theorem replacement?_perm {tables tables' : List (String × NamespaceTable)} {platform : Platform}
    (hUnique : (entriesFor tables platform).IsUnique)
    (hPerm : (entriesFor tables' platform).Perm (entriesFor tables platform)) (source : String) :
    replacement? tables' platform source = replacement? tables platform source := by
  have hLast : NamespaceTable.IsUnique (entriesFor tables platform).reverse := by
    rw [NamespaceTable.IsUnique, List.map_reverse, List.nodup_reverse]
    exact hUnique
  have hLast' : NamespaceTable.IsUnique (entriesFor tables' platform).reverse := by
    rw [NamespaceTable.IsUnique, List.map_reverse, List.nodup_reverse, (hPerm.map _).nodup_iff]
    exact hUnique
  refine congrArg (Option.or · _) (Option.ext fun target => ?_)
  rw [← NamespaceTable.mem_iff_lookup hLast, ← NamespaceTable.mem_iff_lookup hLast',
    List.mem_reverse, List.mem_reverse, hPerm.mem_iff]

end NamespaceMap

/-! ## Replaced names -/

namespace Target

open NamespaceTable (Holds IsUnique Decides longest?_eq_none_iff longest?_eq_some_iff)

theorem afterNamespace_self (name : String) : afterNamespace name name = "" := by
  rw [afterNamespace, ← String.length_toList, List.drop_length]
  rfl

theorem isSegmented_rest {source rest : String} (h : IsSegmented (source ++ "." ++ rest)) :
    IsSegmented rest := by
  intro segment hSegment
  exact h segment (segments_append source rest ▸ List.mem_append_right _ hSegment)

/-- Behind the namespace stands the rest of the name. -/
theorem afterNamespace_append {source rest : String} (h : IsSegmented rest) :
    afterNamespace source (source ++ "." ++ rest) = rest := by
  have hDrop : (source ++ "." ++ rest).toList.drop source.length = '.' :: rest.toList := by
    rw [← String.length_toList, String.toList_append, String.toList_append, List.append_assoc,
      List.drop_left]
    rfl
  have hStart : rest.toList.dropWhile (· == '.') = rest.toList := by
    cases hChars : rest.toList with
    | nil => rfl
    | cons c r =>
      refine List.dropWhile_cons_of_neg fun hDot => ?_
      have hSegments : segments rest = [] :: r.splitOn '.' := by
        rw [segments, hChars, beq_iff_eq.1 hDot]
        exact List.splitOnP_append_cons [] r (by decide)
      exact h [] (hSegments ▸ List.mem_cons_self) rfl
  rw [afterNamespace, hDrop, List.dropWhile_cons_of_pos (by decide), hStart, String.ofList_toList]

section Replacing

variable {t : Target} {name : String} {e : String × String}

/-- A name in a replaced namespace keeps what follows the namespace in Kotlin, and its last
segment in Swift, where the replacement is imported. -/
theorem reference_of_decides (hUnique : t.namespaces.IsUnique) (hName : IsSegmented name)
    (h : t.namespaces.Decides name e) (hTarget : e.2 ≠ "") :
    (t.platform = .android → ∃ rest, name = e.1 ++ rest ∧ t.reference name = .plain (e.2 ++ rest)) ∧
      (t.platform = .ios → t.reference name =
        ⟨e.2 ++ "." ++ Descriptor.simpleName name, .empty, .ofList [e.2]⟩) := by
  have hReference : t.reference name = replaced t.platform e.1 e.2 name := by
    rw [reference, (longest?_eq_some_iff hUnique).2 h]
  have hNotEmpty : e.2.isEmpty = false := by simpa using hTarget
  rw [hReference]
  constructor
  · intro hAndroid
    rw [hAndroid, replaced, hNotEmpty]
    rcases h.holds with rfl | ⟨rest, rfl⟩
    · refine ⟨"", by simp, ?_⟩
      rw [afterNamespace_self]
      simp
    · have hRest := isSegmented_rest hName
      have hSome : rest.isEmpty = false := by simpa using ne_empty_of_isSegmented hRest
      refine ⟨"." ++ rest, by rw [String.append_assoc], ?_⟩
      rw [afterNamespace_append hRest, hSome]
      simp [String.append_assoc]
  · intro hIos
    rw [hIos, replaced, hNotEmpty]
    rfl

/-- Two tables differ only in entries that have no say on a name: their namespaces do not hold
it, or are shorter than the one that decides. -/
def DiffersBelow (name : String) (table table' : NamespaceTable) : Prop :=
  ∀ e, ¬(e ∈ table ↔ e ∈ table') → Holds e.1 name →
    ∃ k, Decides table name k ∧ e.1.length < k.1.length

/-- What decides a name still does if tables differ in shorter or other entries only. -/
theorem decides_of_differsBelow {table table' : NamespaceTable} (hUnique : table.IsUnique)
    (hDiffer : DiffersBelow name table table') (h : Decides table name e) :
    Decides table' name e := by
  refine ⟨?_, h.holds, fun f hf hHolds => ?_⟩
  · by_contra hMissing
    obtain ⟨k, hk, hShorter⟩ := hDiffer e (by simp [h.mem, hMissing]) h.holds
    rw [hk.unique hUnique h] at hShorter
    exact Nat.lt_irrefl _ hShorter
  · by_cases hOld : f ∈ table
    · exact h.longest f hOld hHolds
    · obtain ⟨k, hk, hShorter⟩ := hDiffer f (by simp [hf, hOld]) hHolds
      rw [hk.unique hUnique h] at hShorter
      exact Nat.le_of_lt hShorter

theorem longest?_eq_of_differsBelow {table table' : NamespaceTable} (hUnique : table.IsUnique)
    (hUnique' : table'.IsUnique) (hDiffer : DiffersBelow name table table') :
    table'.longest? name = table.longest? name := by
  cases hLongest : table.longest? name with
  | some e =>
    exact (longest?_eq_some_iff hUnique').2
      (decides_of_differsBelow hUnique hDiffer ((longest?_eq_some_iff hUnique).1 hLongest))
  | none =>
    rw [longest?_eq_none_iff] at hLongest ⊢
    intro e he hHolds
    have hNew : e ∉ table := fun hOld => hLongest e hOld hHolds
    obtain ⟨k, hk, -⟩ := hDiffer e (by simp [he, hNew]) hHolds
    exact hLongest k hk.mem hk.holds

/-- How a platform's table of namespaces replaces a name. -/
structure Replaces (t : Target) (name : String) : Prop where
  /-- A name that no namespace holds keeps its last segment. -/
  kept : (∀ e ∈ t.namespaces, ¬Holds e.1 name) →
    t.reference name = .plain (Descriptor.simpleName name)
  /-- Of the namespaces that hold a name one is the longest. -/
  decided : (∃ e ∈ t.namespaces, Holds e.1 name) → ∃! e, t.namespaces.Decides name e
  replaced : ∀ e, t.namespaces.Decides name e → e.2 ≠ "" →
    (t.platform = .android → ∃ rest, name = e.1 ++ rest ∧ t.reference name = .plain (e.2 ++ rest)) ∧
      (t.platform = .ios → t.reference name =
        ⟨e.2 ++ "." ++ Descriptor.simpleName name, .empty, .ofList [e.2]⟩)
  /-- The order of the entries does not matter, nor do entries that have no say. -/
  stable : ∀ table' : NamespaceTable, table'.IsUnique →
    table'.Perm t.namespaces ∨ DiffersBelow name t.namespaces table' →
      Target.reference ⟨t.platform, table'⟩ name = t.reference name

/-- A target with one entry for each source replaces names by the longest one. -/
theorem replaces_of_isUnique (hUnique : t.namespaces.IsUnique) (hName : IsSegmented name) :
    t.Replaces name where
  kept h := reference_none (longest?_eq_none_iff.2 h)
  decided := NamespaceTable.existsUnique_decides hUnique
  replaced e h := reference_of_decides hUnique hName h
  stable table' hUnique' hDiffer := by
    have hBelow : DiffersBelow name t.namespaces table' := by
      rcases hDiffer with hPerm | hBelow
      · exact fun e he => absurd hPerm.mem_iff.symm he
      · exact hBelow
    rw [reference, reference, longest?_eq_of_differsBelow hUnique hUnique' hBelow]

end Replacing

/-- The entry of the longest namespace that holds a name replaces it, on every platform and in
every configuration that names known platforms, whatever the order of its entries. -/
theorem replaces_longest (tables : List (String × NamespaceTable))
    (hPlatforms : ∀ e ∈ tables, Platform.ofText? e.1 ≠ none) {name : String}
    (hName : IsSegmented name) :
    (segments name).getLast? = some (Descriptor.simpleName name).toList ∧
    ∃ namespaces, NamespaceMap.configured tables = .ok namespaces ∧ ∀ platform,
      (namespaces.get platform).IsUnique ∧
      (∀ source target, (source, target) ∈ namespaces.get platform ↔
        NamespaceMap.replacement? tables platform source = some target) ∧
      (ofMap namespaces platform).Replaces name ∧
      ∀ tables', (∀ e ∈ tables', Platform.ofText? e.1 ≠ none) →
        (NamespaceMap.entriesFor tables platform).IsUnique →
        (NamespaceMap.entriesFor tables' platform).Perm (NamespaceMap.entriesFor tables platform) →
          ∃ namespaces', NamespaceMap.configured tables' = .ok namespaces' ∧
            (ofMap namespaces' platform).reference name =
              (ofMap namespaces platform).reference name := by
  obtain ⟨namespaces, hConfigured, hTables⟩ :=
    NamespaceMap.exists_addAll hPlatforms NamespaceMap.standard
  refine ⟨getLast?_segments name, namespaces, hConfigured, fun platform => ?_⟩
  obtain ⟨hUnique, hEntries⟩ := NamespaceMap.mem_get_configured_iff (hTables platform)
  have hReplaces := @replaces_of_isUnique (ofMap namespaces platform) name hUnique hName
  refine ⟨hUnique, hEntries, hReplaces, fun tables' hPlatforms' hOnce hPerm => ?_⟩
  obtain ⟨namespaces', hConfigured', hTables'⟩ :=
    NamespaceMap.exists_addAll hPlatforms' NamespaceMap.standard
  obtain ⟨hUnique', hEntries'⟩ := NamespaceMap.mem_get_configured_iff (hTables' platform)
  refine ⟨namespaces', hConfigured', hReplaces.stable _ hUnique' (.inr fun e he => ?_)⟩
  refine absurd ?_ he
  change (e.1, e.2) ∈ namespaces.get platform ↔ (e.1, e.2) ∈ namespaces'.get platform
  rw [hEntries, hEntries', NamespaceMap.replacement?_perm hOnce hPerm]

/-- A namespace inside a standard one, in any case of the platforms' names. -/
def weatherTables : List (String × NamespaceTable) := [
  ("Android", [("Location.Core.Weather", "com.example.weather"), ("Location", "com.example")]),
  (" ios ", [("Location.Core.Weather", "Weather")])]

/-- A name in three namespaces. -/
theorem replaces_longest_weather :
    (∀ e ∈ weatherTables, Platform.ofText? e.1 ≠ none) ∧
      IsSegmented "Location.Core.Weather.Forecast" ∧
      ∃ namespaces, NamespaceMap.configured weatherTables = .ok namespaces ∧
        (∀ platform, (ofMap namespaces platform).Replaces "Location.Core.Weather.Forecast") ∧
        (ofMap namespaces .android).reference "Location.Core.Weather.Forecast" =
          .plain "com.example.weather.Forecast" ∧
        (ofMap namespaces .ios).reference "Location.Core.Weather.Forecast" =
          ⟨"Weather.Forecast", .empty, .ofList ["Weather"]⟩ := by
  have hPlatforms : ∀ e ∈ weatherTables, Platform.ofText? e.1 ≠ none := by decide +kernel
  have hName : IsSegmented "Location.Core.Weather.Forecast" := by
    unfold IsSegmented
    decide
  obtain ⟨-, namespaces, hConfigured, hTables⟩ := replaces_longest weatherTables hPlatforms hName
  have hLongest : (NamespaceMap.configured weatherTables).toOption.map (fun namespaces =>
      ((ofMap namespaces .android).reference "Location.Core.Weather.Forecast",
        (ofMap namespaces .ios).reference "Location.Core.Weather.Forecast")) =
      some (.plain "com.example.weather.Forecast",
        ⟨"Weather.Forecast", .empty, .ofList ["Weather"]⟩) := by decide +kernel
  rw [hConfigured] at hLongest
  obtain ⟨hAndroid, hIos⟩ := Prod.mk.inj (Option.some.inj hLongest)
  exact ⟨hPlatforms, hName, namespaces, hConfigured, fun platform => (hTables platform).2.2.1,
    hAndroid, hIos⟩

end Target
end ViewAdapters
