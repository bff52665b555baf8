import ViewAdapters.Proofs.Emission.Isolation

/-!
# Collisions of adapter names

The ending of a view-model's name is dropped once, and only where something stands before it. So
two names have one adapter name exactly if they are equal or one of them is the other with the
ending behind it, where the other keeps what ending it has.

* `adapterNameOf_eq_iff`: when two names have one adapter name.
* `fileName_eq_iff`: files of one platform are named by the adapters.
* `claimant?_eq_some_iff_clashes`: who owns a file name.
* `clashes_of_completes`: what a run reports as collisions.
-/

namespace ViewAdapters

/-! ## Names of adapters -/

theorem Text.stem?_eq_none_iff {ending cs : List Char} :
    Text.stem? ending cs = none ↔ cs = ending ∨ ¬ ending <:+ cs := by
  constructor
  · intro h
    refine or_iff_not_imp_right.2 fun hSuffix => ?_
    obtain ⟨front, rfl⟩ := not_not.1 hSuffix
    have hFront : front = [] := by
      by_contra hSome
      rw [Text.stem?_eq_some_iff.2 ⟨rfl, hSome⟩] at h
      contradiction
    rw [hFront, List.nil_append]
  · intro h
    cases hStem : Text.stem? ending cs with
    | none => rfl
    | some stem =>
      obtain ⟨rfl, hSome⟩ := Text.stem?_eq_some_iff.1 hStem
      rcases h with hEnding | hNot
      · exact absurd (List.append_left_eq_self.1 hEnding) hSome
      · exact absurd (List.suffix_append stem ending) hNot

namespace ViewModel

/-- A name that the name of its adapter begins with: one that does not end as names of
view-models do, or is that ending itself. -/
def KeepsEnding (name : String) : Prop :=
  name = "ViewModel" ∨ ¬ "ViewModel".toList <:+ name.toList

/-- Two names are equal, or one of them is the other with the ending of view-models behind it. -/
inductive SharesAdapter : String → String → Prop
  | same (name : String) : SharesAdapter name name
  | ending {name : String} (hSome : name ≠ "") (hKeeps : KeepsEnding name) :
      SharesAdapter name (name ++ "ViewModel")
  | behind {name : String} (hSome : name ≠ "") (hKeeps : KeepsEnding name) :
      SharesAdapter (name ++ "ViewModel") name

/-- What stands before `Adapter` in the name of an adapter. -/
def stemOf (name : String) : List Char := (Text.stem? nameEnding name.toList).getD name.toList

theorem adapterNameOf_eq_stemOf_iff {a b : String} :
    adapterNameOf a = adapterNameOf b ↔ stemOf a = stemOf b := by
  change String.ofList (stemOf a) ++ "Adapter" = String.ofList (stemOf b) ++ "Adapter" ↔ _
  rw [← String.toList_inj, String.toList_append, String.toList_append, List.append_left_inj,
    String.toList_ofList, String.toList_ofList]

theorem stem?_eq_none_iff_keepsEnding {name : String} :
    Text.stem? nameEnding name.toList = none ↔ KeepsEnding name :=
  Text.stem?_eq_none_iff.trans (or_congr_left String.toList_inj)

theorem stemOf_of_keepsEnding {name : String} (h : KeepsEnding name) :
    stemOf name = name.toList := by
  rw [stemOf, stem?_eq_none_iff_keepsEnding.2 h, Option.getD_none]

theorem stemOf_append {name : String} (hSome : name ≠ "") :
    stemOf (name ++ "ViewModel") = name.toList := by
  have hStem : Text.stem? nameEnding (name ++ "ViewModel").toList = some name.toList := by
    refine Text.stem?_eq_some_iff.2 ⟨String.toList_append, fun hNil => hSome ?_⟩
    exact String.toList_eq_nil_iff.1 hNil
  rw [stemOf, hStem, Option.getD_some]

/-- A name keeps its ending, or it is a longer one that is named after what stands before. -/
theorem keepsEnding_or_exists (name : String) :
    KeepsEnding name ∨ ∃ front, front ≠ "" ∧ name = front ++ "ViewModel" ∧
      stemOf name = front.toList := by
  cases hStem : Text.stem? nameEnding name.toList with
  | none => exact .inl (stem?_eq_none_iff_keepsEnding.1 hStem)
  | some stem =>
    obtain ⟨hName, hSome⟩ := Text.stem?_eq_some_iff.1 hStem
    refine .inr ⟨String.ofList stem, ?_, ?_, ?_⟩
    · intro hEmpty
      exact hSome (by rw [← String.toList_ofList (l := stem), hEmpty, String.toList_empty])
    · rw [← String.toList_inj, String.toList_append, String.toList_ofList]
      exact hName
    · rw [stemOf, hStem, Option.getD_some, String.toList_ofList]

/-- Names of view-models have one adapter name exactly if they are equal or differ in an ending
that is dropped. -/
theorem adapterNameOf_eq_iff {a b : String} :
    adapterNameOf a = adapterNameOf b ↔ SharesAdapter a b := by
  rw [adapterNameOf_eq_stemOf_iff]
  constructor
  · intro h
    -- Only if exactly one of the names loses its ending do they differ.
    rcases keepsEnding_or_exists a with hA | ⟨front, hSome, rfl, hStem⟩ <;>
      rcases keepsEnding_or_exists b with hB | ⟨other, hOther, rfl, hStem'⟩
    · rw [stemOf_of_keepsEnding hA, stemOf_of_keepsEnding hB, String.toList_inj] at h
      exact h ▸ .same a
    · rw [stemOf_of_keepsEnding hA, hStem', String.toList_inj] at h
      exact h ▸ .ending (h ▸ hOther) hA
    · rw [hStem, stemOf_of_keepsEnding hB, String.toList_inj] at h
      exact h ▸ .behind hSome (h ▸ hB)
    · rw [hStem, hStem', String.toList_inj] at h
      exact h ▸ .same _
  · intro h
    cases h with
    | same => rfl
    | ending hSome hKeeps => rw [stemOf_of_keepsEnding hKeeps, stemOf_append hSome]
    | behind hSome hKeeps => rw [stemOf_of_keepsEnding hKeeps, stemOf_append hSome]

theorem fileName_eq_iff {v w : ViewModel} {platform : Platform} :
    v.fileName platform = w.fileName platform ↔ SharesAdapter v.name w.name := by
  unfold fileName adapterName
  rw [← adapterNameOf_eq_iff, String.append_left_inj, String.append_left_inj]

end ViewModel

/-! ## Claims of file names -/

namespace Emission

/-- Two view-models are in each other's way on a platform: neither is excluded there, and their
names have one adapter name. -/
structure Clashes (platform : Platform) (w v : ViewModel) : Prop where
  included : w.excluded.get platform = false
  wanted : v.excluded.get platform = false
  names : ViewModel.SharesAdapter w.name v.name

section Clashes

variable {earlier : List ViewModel} {v w : ViewModel} {platform : Platform}

theorem produces_iff_clashes (h : v.excluded.get platform = false) :
    produces w platform (v.fileName platform) = true ↔ Clashes platform w v := by
  rw [produces_iff, ViewModel.fileName_eq_iff]
  exact ⟨fun hProduces => ⟨hProduces.1, h, hProduces.2⟩, fun hClash =>
    ⟨hClash.included, hClash.names⟩⟩

/-- The owner of a file name is the first view-model that clashes. -/
theorem claimant?_eq_some_iff_clashes (h : v.excluded.get platform = false) :
    claimant? earlier platform (v.fileName platform) = some w ↔
      ∃ front back, earlier = front ++ w :: back ∧ Clashes platform w v ∧
        ∀ u ∈ front, ¬ Clashes platform u v := by
  simp only [claimant?, List.find?_eq_some_iff_append, produces_iff_clashes h,
    Bool.not_eq_true', ← Bool.not_eq_true]
  constructor
  · rintro ⟨hClash, front, back, hSplit, hFirst⟩
    exact ⟨front, back, hSplit, hClash, hFirst⟩
  · rintro ⟨front, back, hSplit, hClash, hFirst⟩
    exact ⟨hClash, front, back, hSplit, hFirst⟩

theorem slotAfter_eq_taken_iff_clashes {fileName owner : String} :
    slotAfter earlier v platform = .taken fileName owner ↔
      fileName = v.fileName platform ∧ ∃ front w back, earlier = front ++ w :: back ∧
        Clashes platform w v ∧ (∀ u ∈ front, ¬ Clashes platform u v) ∧ owner = w.name := by
  rw [slotAfter_eq_taken_iff]
  constructor
  · rintro ⟨hWanted, rfl, w, hClaimant, rfl⟩
    obtain ⟨front, back, hSplit, hClash, hFirst⟩ :=
      (claimant?_eq_some_iff_clashes hWanted).1 hClaimant
    exact ⟨rfl, front, w, back, hSplit, hClash, hFirst, rfl⟩
  · rintro ⟨rfl, front, w, back, hSplit, hClash, hFirst, rfl⟩
    exact ⟨hClash.wanted, rfl, w,
      (claimant?_eq_some_iff_clashes hClash.wanted).2 ⟨front, back, hSplit, hClash, hFirst⟩, rfl⟩

/-- A file name is taken for each view-model that clashes with an earlier one, and for no other. -/
theorem exists_slotAfter_eq_taken_iff :
    (∃ fileName owner, slotAfter earlier v platform = .taken fileName owner) ↔
      ∃ w ∈ earlier, Clashes platform w v := by
  constructor
  · rintro ⟨fileName, owner, hTaken⟩
    obtain ⟨-, front, w, back, rfl, hClash, -⟩ := slotAfter_eq_taken_iff_clashes.1 hTaken
    exact ⟨w, by simp, hClash⟩
  · rintro ⟨w, hw, hClash⟩
    have hSome : (claimant? earlier platform (v.fileName platform)).isSome :=
      List.find?_isSome.2 ⟨w, hw, (produces_iff_clashes hClash.wanted).2 hClash⟩
    obtain ⟨owner, hOwner⟩ := Option.isSome_iff_exists.1 hSome
    exact ⟨_, _, slotAfter_eq_taken_iff.2 ⟨hClash.wanted, rfl, owner, hOwner, rfl⟩⟩

end Clashes

/-! ## Reports of collisions -/

/-- What the plan of a run says of the file name of a view-model behind others, and what the run
reports of it. -/
structure ReportsClashes (earlier : List ViewModel) (v : ViewModel) (platform : Platform)
    (slot : Slot) (o : Outcome) : Prop where
  clashing : (∃ fileName owner, slot = .taken fileName owner) ↔
    ∃ w ∈ earlier, Clashes platform w v
  /-- The owner is the first of those that it clashes with. -/
  taken : ∀ fileName owner, slot = .taken fileName owner ↔
    fileName = v.fileName platform ∧ ∃ front w back, earlier = front ++ w :: back ∧
      Clashes platform w v ∧ (∀ u ∈ front, ¬ Clashes platform u v) ∧ owner = w.name
  reported : ∀ fileName owner, slot = .taken fileName owner →
    o.viewModel = v.name ∧ o.platform = platform ∧
      o.result = .failed (takenMessage fileName owner)

/-- Two names have one adapter name exactly if they are equal or differ in an ending that is
dropped, and a run reports a collision on a platform for exactly those view-models that clash with
an earlier one there. -/
theorem clashes_of_completes {s : Settings} {files final : Files} {vs : List ViewModel}
    {request : List Selector} {summary : Summary}
    (h : Completes s files vs request final (.ok summary)) :
    (∀ a b, ViewModel.adapterNameOf a = ViewModel.adapterNameOf b ↔
        ViewModel.SharesAdapter a b) ∧
      ∃ emitters : List Emitter, Selector.select request = .ok summary.platforms ∧
        summary.platforms = emitters.map (·.platform) ∧
        ∀ (i j : Nat) v e, vs[i]? = some v → emitters[j]? = some e →
          ∃ slot o, (slotsOf emitters vs)[i * emitters.length + j]? = some ((v, e), slot) ∧
            summary.outcomes[i * emitters.length + j]? = some o ∧
            ReportsClashes (vs.take i) v e.platform slot o := by
  refine ⟨fun a b => ViewModel.adapterNameOf_eq_iff, ?_⟩
  obtain ⟨emitters, outcomes, hRequest, -, hWorks, rfl⟩ := worked_of_completes h
  obtain ⟨-, hSelect, hNodup, -⟩ := requested_spec hRequest
  refine ⟨emitters, hSelect, rfl, fun i j v e hv he => ?_⟩
  have hSlot := plan_pairs_getElem? hNodup hv he
  obtain ⟨o, hOutcome, hSettles⟩ := settles_getElem? hWorks hSlot
  refine ⟨_, o, hSlot, hOutcome, exists_slotAfter_eq_taken_iff,
    fun fileName owner => slotAfter_eq_taken_iff_clashes, fun fileName owner hTaken => ?_⟩
  rw [hTaken] at hSettles
  cases hSettles
  exact ⟨rfl, rfl, rfl⟩

/-- Names with one and two endings, one of them left out. -/
def endings : List ViewModel :=
  [bare "X", { bare "XViewModel" with excluded := ⟨true, false⟩ }, bare "XViewModelViewModel",
    bare "XViewModel"]

/-- The name with one ending is in the way of that without, the name with two endings is not. -/
def endingsSummary : Summary :=
  ⟨4, [.android], [⟨"X", .android, .generated ⟨"", ["out", "android", "XAdapter.kt"]⟩ []⟩,
    ⟨"XViewModel", .android, .skipped⟩,
    ⟨"XViewModelViewModel", .android,
      .generated ⟨"", ["out", "android", "XViewModelAdapter.kt"]⟩ []⟩,
    ⟨"XViewModel", .android, .failed "XAdapter.kt is already produced by X"⟩], false⟩

theorem clashes_endings :
    Completes twoWorkers (Files.empty []) endings [.named "android"]
        (run twoWorkers (Files.empty []) endings [.named "android"]).files
        (.ok endingsSummary) ∧
      ViewModel.adapterNameOf "X" = ViewModel.adapterNameOf "XViewModel" ∧
      Clashes .android (bare "X") (bare "XViewModel") ∧
      ∃ slot o, ReportsClashes (endings.take 3) (bare "XViewModel") .android slot o ∧
        o.result = .failed "XAdapter.kt is already produced by X" := by
  have hRun : Completes twoWorkers (Files.empty []) endings [.named "android"]
      (run twoWorkers (Files.empty []) endings [.named "android"]).files
      (.ok endingsSummary) := completes_of_run rfl
  have hNames : ViewModel.SharesAdapter "X" "XViewModel" :=
    .ending (by decide) (.inr (by decide))
  obtain ⟨hIff, emitters, -, hPlatforms, hAll⟩ := clashes_of_completes hRun
  obtain ⟨e, rfl, hPlatform⟩ := List.map_eq_singleton_iff.1 hPlatforms.symm
  obtain ⟨slot, o, -, hOutcome, hReports⟩ := hAll 3 0 (bare "XViewModel") e rfl rfl
  cases hOutcome
  rw [hPlatform] at hReports
  exact ⟨hRun, (hIff _ _).2 hNames, ⟨rfl, rfl, hNames⟩, slot, _, hReports, rfl⟩

end Emission
end ViewAdapters
