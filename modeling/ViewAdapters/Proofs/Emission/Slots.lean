import ViewAdapters.Emission.Run
import ViewAdapters.Proofs.Emission.Selections

/-!
# Slots of a plan

Which slot a pair has can be told from the view-models alone: a claim taken before
the pair is one of an earlier view-model that is not excluded and has the same file
name on the platform.

* `requested_spec`: the requested emitters are those of the selected platforms, each once.
* `plan_getElem?`: the slot of a pair depends on the pairs before it.
* `index_eq_of_jobs`: a plan generates one adapter for each platform and file name.
* `plan_pairs_getElem?`: the slot of a view-model and an emitter.
* `jobs_pairwise`: no two jobs of a plan have a platform and a file name in common.
-/

namespace ViewAdapters.Emission

/-! ## Requested emitters -/

theorem Settings.platform_of_emitter? {s : Settings} {p : Platform} {e : Emitter}
    (h : s.emitter? p = some e) : e.platform = p := by
  have hFound := List.find?_some h
  simpa using hFound

/-- The emitters of platforms that all have one, in order. -/
theorem map_platform_filterMap {s : Settings} {platforms : List Platform}
    (h : ∀ p ∈ platforms, (s.emitter? p).isSome) :
    (platforms.filterMap s.emitter?).map (·.platform) = platforms := by
  induction platforms with
  | nil => rfl
  | cons p rest ih =>
    obtain ⟨e, he⟩ := Option.isSome_iff_exists.1 (h p (by simp))
    rw [List.filterMap_cons_some he, List.map_cons, Settings.platform_of_emitter? he,
      ih fun q hq => h q (List.mem_cons_of_mem _ hq)]

/-- A run that starts has view-models, and one emitter for each selected platform. -/
theorem requested_spec {s : Settings} {vs : List ViewModel} {request : List Selector}
    {emitters : List Emitter} (h : requested s vs request = .ok emitters) :
    vs ≠ [] ∧ Selector.select request = .ok (emitters.map (·.platform)) ∧
      (emitters.map (·.platform)).Nodup ∧ ∀ e ∈ emitters, s.emitter? e.platform = some e := by
  unfold requested at h
  by_cases hEmpty : vs.isEmpty
  · simp [hEmpty, bind, Except.bind, throw, throwThe, MonadExceptOf.throw] at h
  · simp only [hEmpty, Bool.false_eq_true, if_false, bind, Except.bind, pure, Except.pure] at h
    cases hSelect : Selector.select request with
    | error fault =>
      rw [hSelect] at h
      contradiction
    | ok platforms =>
      have hMapped : (Except.ok platforms).mapError RunFault.platforms = .ok platforms := rfl
      simp only [hSelect, hMapped] at h
      split at h
      · contradiction
      · rename_i hMissing
        cases h
        have hAll : ∀ p ∈ platforms, (s.emitter? p).isSome := by
          intro p hp
          have hNone : (platforms.filter fun p => (s.emitter? p).isNone) = [] := by
            simpa using hMissing
          have hNot := List.filter_eq_nil_iff.1 hNone p hp
          simpa [Option.isSome_iff_ne_none] using hNot
        rw [map_platform_filterMap hAll]
        refine ⟨by simpa using hEmpty, rfl, Selector.select_nodup hSelect, fun e he => ?_⟩
        obtain ⟨p, -, hp⟩ := List.mem_filterMap.1 he
        rw [Settings.platform_of_emitter? hp, hp]

/-! ## Claims -/

/-- Whether a view-model has a file name on a platform and is not excluded there. -/
def produces (w : ViewModel) (platform : Platform) (fileName : String) : Bool :=
  !w.excluded.get platform && w.fileName platform == fileName

/-- Whether a pair claims a file name on a platform if nobody has it yet. -/
def Pair.wants (q : Pair) (platform : Platform) (fileName : String) : Bool :=
  q.2.platform == platform && produces q.1 platform fileName

theorem Pair.wants_self {p : Pair} (h : ¬ p.1.excluded.get p.2.platform) :
    p.wants p.2.platform p.fileName = true := by
  simp [wants, produces, fileName, h]

theorem Pair.wants_excluded {p : Pair} (h : p.1.excluded.get p.2.platform)
    (platform : Platform) (fileName : String) : p.wants platform fileName = false := by
  by_cases hPlatform : p.2.platform = platform
  · subst hPlatform
    simp [wants, produces, h]
  · simp [wants, hPlatform]

theorem Pair.wants_other {p : Pair} {platform : Platform} {fileName : String}
    (h : ¬ (p.2.platform = platform ∧ p.fileName = fileName)) :
    p.wants platform fileName = false := by
  by_cases hPlatform : p.2.platform = platform
  · subst hPlatform
    have hName : p.1.fileName p.2.platform ≠ fileName := fun hEq => h ⟨rfl, hEq⟩
    simp [wants, produces, hName]
  · simp [wants, hPlatform]

/-- The claims are those that pairs have taken in order. -/
def Claims.Of (claims : Claims) (before : List Pair) : Prop :=
  ∀ platform fileName, claims.owner? platform fileName =
    (before.find? fun q => q.wants platform fileName).map fun q => q.1.name

/-- The slot of a pair after pairs that were planned from the start. -/
def slotAmong (before : List Pair) (p : Pair) : Slot :=
  if p.1.excluded.get p.2.platform then .excluded
  else
    match before.find? fun q => q.wants p.2.platform p.fileName with
    | some q => .taken p.fileName q.1.name
    | none => .job

theorem Claims.of_nil : Claims.Of [] [] := fun _ _ => rfl

/-- A claim changes the owner of its own name on its own platform only. -/
theorem Claims.owner?_claim_eq (claims : Claims) (platform other : Platform)
    (fileName name owner : String) :
    (claims.claim platform fileName owner).owner? other name =
      if platform = other ∧ fileName = name then some owner else claims.owner? other name := by
  unfold owner? claim
  rw [List.lookup_cons]
  by_cases h : (other, name) = (platform, fileName)
  · cases h
    simp
  · have hNot : ¬ (platform = other ∧ fileName = name) := by
      rintro ⟨rfl, rfl⟩
      exact h rfl
    rw [if_neg hNot, beq_eq_false_iff_ne.2 h]

/-- What a pair finds claimed is what the pairs in front of it wanted. -/
theorem slotOf_eq {claims : Claims} {before : List Pair} (h : claims.Of before) (p : Pair) :
    slotOf claims p = slotAmong before p := by
  unfold slotOf slotAmong
  rw [h]
  cases before.find? fun q => q.wants p.2.platform p.fileName <;> rfl

/-- One more pair claims what it wants. -/
theorem Claims.of_claimsAfter {claims : Claims} {before : List Pair} (h : claims.Of before)
    (p : Pair) : (claimsAfter claims p).Of (before ++ [p]) := by
  intro platform fileName
  rw [List.find?_append]
  unfold claimsAfter
  rw [slotOf_eq h]
  unfold slotAmong
  by_cases hExcluded : p.1.excluded.get p.2.platform
  · simp [hExcluded, h platform fileName, Pair.wants_excluded hExcluded]
  · rw [if_neg hExcluded]
    cases hOwner : before.find? fun q => q.wants p.2.platform p.fileName with
    | some owner =>
      dsimp only
      rw [h platform fileName]
      by_cases hSame : p.2.platform = platform ∧ p.fileName = fileName
      · obtain ⟨rfl, rfl⟩ := hSame
        simp [hOwner]
      · simp [Pair.wants_other hSame]
    | none =>
      dsimp only
      rw [Claims.owner?_claim_eq, h platform fileName]
      by_cases hSame : p.2.platform = platform ∧ p.fileName = fileName
      · obtain ⟨rfl, rfl⟩ := hSame
        simp [hOwner, Pair.wants_self hExcluded]
      · simp [hSame, Pair.wants_other hSame]

/-- The slot of a pair depends on the pairs in front of it. -/
theorem plan_getElem? {claims : Claims} {before : List Pair} (h : claims.Of before)
    (ps : List Pair) (k : Nat) :
    (plan claims ps)[k]? = ps[k]?.map fun p => (p, slotAmong (before ++ ps.take k) p) := by
  induction ps generalizing claims before k with
  | nil => rfl
  | cons p rest ih =>
    cases k with
    | zero => simp [plan, slotOf_eq h]
    | succ k => simp [plan, ih (Claims.of_claimsAfter h p)]

theorem pair_of_plan_getElem? {ps : List Pair} {k : Nat} {p : Pair} {slot : Slot}
    (h : (plan [] ps)[k]? = some (p, slot)) : ps[k]? = some p := by
  rw [plan_getElem? Claims.of_nil] at h
  obtain ⟨q, hq, hSlot⟩ := Option.map_eq_some_iff.1 h
  rw [hq, (Prod.mk.inj hSlot).1]

theorem pairs_cons (emitters : List Emitter) (v : ViewModel) (vs : List ViewModel) :
    pairs emitters (v :: vs) = emitters.map (fun e => (v, e)) ++ pairs emitters vs := rfl

/-- There is a pair for each view-model and each emitter. -/
theorem pairs_length (emitters : List Emitter) (vs : List ViewModel) :
    (pairs emitters vs).length = vs.length * emitters.length := by
  induction vs with
  | nil => simp [pairs]
  | cons v rest ih =>
    rw [pairs_cons, List.length_append, List.length_map, ih, List.length_cons, Nat.succ_mul,
      Nat.add_comm]

/-- The pairs from some view-model on. -/
theorem pairs_drop (emitters : List Emitter) (vs : List ViewModel) (i : Nat) :
    (pairs emitters vs).drop (i * emitters.length) = pairs emitters (vs.drop i) := by
  induction i generalizing vs with
  | zero => simp
  | succ i ih =>
    cases vs with
    | nil => simp [pairs]
    | cons v rest =>
      rw [pairs_cons, Nat.succ_mul, Nat.add_comm, ← List.drop_drop,
        List.drop_left' (by simp), ih, List.drop_succ_cons]

/-- The pairs up to some view-model. -/
theorem pairs_take (emitters : List Emitter) (vs : List ViewModel) (i : Nat) :
    (pairs emitters vs).take (i * emitters.length) = pairs emitters (vs.take i) := by
  induction i generalizing vs with
  | zero => simp [pairs]
  | succ i ih =>
    cases vs with
    | nil => simp [pairs]
    | cons v rest =>
      rw [pairs_cons, Nat.succ_mul, Nat.add_comm, List.take_append, List.length_map,
        Nat.add_sub_cancel_left, ih, List.take_of_length_le (by simp), List.take_succ_cons,
        pairs_cons]

section Index

variable {emitters : List Emitter} {vs : List ViewModel} {v : ViewModel} {e : Emitter}
  {i j : Nat}

/-- The pairs of a view-model stand together, in the order of the emitters. -/
theorem pairs_getElem? (hv : vs[i]? = some v) (he : emitters[j]? = some e) :
    (pairs emitters vs)[i * emitters.length + j]? = some (v, e) := by
  obtain ⟨hj, -⟩ := List.getElem?_eq_some_iff.1 he
  obtain ⟨hi, hvi⟩ := List.getElem?_eq_some_iff.1 hv
  rw [← List.getElem?_drop, pairs_drop, List.drop_eq_getElem_cons hi, pairs_cons,
    List.getElem?_append_left (by simpa using hj), List.getElem?_map, he, hvi]
  rfl

/-- The view-model and the emitter of a pair by its place in the order. -/
theorem exists_index_of_pairs {k : Nat} (h : (pairs emitters vs)[k]? = some (v, e)) :
    ∃ i j, k = i * emitters.length + j ∧ vs[i]? = some v ∧ emitters[j]? = some e := by
  obtain ⟨hk, -⟩ := List.getElem?_eq_some_iff.1 h
  rw [pairs_length, Nat.mul_comm] at hk
  have hPos : 0 < emitters.length := Nat.pos_of_mul_pos_right (Nat.zero_lt_of_lt hk)
  have hi : k / emitters.length < vs.length := Nat.div_lt_of_lt_mul hk
  have hj : k % emitters.length < emitters.length := Nat.mod_lt k hPos
  have hIndex : k = k / emitters.length * emitters.length + k % emitters.length := by
    rw [Nat.mul_comm, Nat.div_add_mod]
  have hPair := pairs_getElem? (List.getElem?_eq_getElem hi) (List.getElem?_eq_getElem hj)
  rw [← hIndex, h] at hPair
  cases hPair
  exact ⟨k / emitters.length, k % emitters.length, hIndex, List.getElem?_eq_getElem hi,
    List.getElem?_eq_getElem hj⟩

theorem mem_pairs {p : Pair} : p ∈ pairs emitters vs ↔ p.1 ∈ vs ∧ p.2 ∈ emitters := by
  unfold pairs
  simp only [List.mem_flatMap, List.mem_map]
  constructor
  · rintro ⟨w, hw, d, hd, rfl⟩
    exact ⟨hw, hd⟩
  · rintro ⟨hv, he⟩
    exact ⟨p.1, hv, p.2, he, rfl⟩

/-- In front of a pair stand those of the earlier view-models, and its own on earlier platforms. -/
theorem pairs_take_index (hv : vs[i]? = some v) (he : emitters[j]? = some e) :
    (pairs emitters vs).take (i * emitters.length + j) =
      pairs emitters (vs.take i) ++ (emitters.take j).map fun e => (v, e) := by
  obtain ⟨hj, -⟩ := List.getElem?_eq_some_iff.1 he
  obtain ⟨hi, hvi⟩ := List.getElem?_eq_some_iff.1 hv
  rw [List.take_add, pairs_take, pairs_drop, List.drop_eq_getElem_cons hi, pairs_cons,
    List.take_append_of_le_length (by simpa using Nat.le_of_lt hj), ← List.map_take, hvi]

/-- The first of some view-models that is not excluded on a platform and has a file name. -/
def claimant? (ws : List ViewModel) (platform : Platform) (fileName : String) :
    Option ViewModel :=
  ws.find? fun w => produces w platform fileName

theorem find?_block_none {platform : Platform} {fileName : String} (w : ViewModel)
    (h : platform ∉ emitters.map (·.platform)) :
    (emitters.map fun e => (w, e)).find? (fun q : Pair => q.wants platform fileName) = none := by
  rw [List.find?_eq_none]
  intro q hq
  obtain ⟨e, he, rfl⟩ := List.mem_map.1 hq
  have hNot : e.platform ≠ platform := fun hEq => h (List.mem_map.2 ⟨e, he, hEq⟩)
  simp [Pair.wants, hNot]

/-- A view-model wants a name through the emitter of its platform. -/
theorem find?_block {fileName : String} (hNodup : (emitters.map (·.platform)).Nodup)
    (he : e ∈ emitters) (w : ViewModel) :
    (emitters.map fun e => (w, e)).find? (fun q : Pair => q.wants e.platform fileName) =
      if produces w e.platform fileName then some (w, e) else none := by
  induction emitters with
  | nil => contradiction
  | cons first rest ih =>
    rw [List.map_cons, List.nodup_cons] at hNodup
    rw [List.map_cons, List.find?_cons]
    rcases List.mem_cons.1 he with rfl | he
    · rw [find?_block_none w hNodup.1]
      simp only [Pair.wants, beq_self_eq_true, Bool.true_and]
      cases produces w e.platform fileName <;> rfl
    · have hNot : first.platform ≠ e.platform := fun hEq =>
        hNodup.1 (List.mem_map.2 ⟨e, he, hEq.symm⟩)
      rw [show Pair.wants (w, first) e.platform fileName = false by simp [Pair.wants, hNot]]
      exact ih hNodup.2 he

/-- The first pair that wants a name is that of the first view-model that does. -/
theorem find?_pairs {fileName : String} (hNodup : (emitters.map (·.platform)).Nodup)
    (he : e ∈ emitters) (ws : List ViewModel) :
    (pairs emitters ws).find? (fun q => q.wants e.platform fileName) =
      (claimant? ws e.platform fileName).map fun w => (w, e) := by
  induction ws with
  | nil => rfl
  | cons w rest ih =>
    rw [pairs_cons, List.find?_append, find?_block hNodup he, ih, claimant?, claimant?,
      List.find?_cons]
    cases produces w e.platform fileName <;> rfl

/-- The slot of a view-model on a platform after other view-models. -/
def slotAfter (earlier : List ViewModel) (v : ViewModel) (platform : Platform) : Slot :=
  if v.excluded.get platform then .excluded
  else
    match claimant? earlier platform (v.fileName platform) with
    | some w => .taken (v.fileName platform) w.name
    | none => .job

/-- A pair is passed over exactly if its view-model is excluded there. -/
theorem slotAfter_eq_excluded_iff {earlier : List ViewModel} {platform : Platform} :
    slotAfter earlier v platform = .excluded ↔ v.excluded.get platform = true := by
  unfold slotAfter
  by_cases hExcluded : v.excluded.get platform
  · simp [hExcluded]
  · rw [if_neg hExcluded]
    cases claimant? earlier platform (v.fileName platform) <;> simp [hExcluded]

/-- A name is taken by the first earlier view-model that has it. -/
theorem slotAfter_eq_taken_iff {earlier : List ViewModel} {platform : Platform}
    {fileName owner : String} :
    slotAfter earlier v platform = .taken fileName owner ↔
      v.excluded.get platform = false ∧ fileName = v.fileName platform ∧
        ∃ w, claimant? earlier platform fileName = some w ∧ owner = w.name := by
  unfold slotAfter
  by_cases hExcluded : v.excluded.get platform
  · simp [hExcluded]
  · rw [if_neg hExcluded]
    constructor
    · intro h
      split at h
      · rename_i w hClaimant
        cases h
        exact ⟨by simpa using hExcluded, rfl, w, hClaimant, rfl⟩
      · contradiction
    · rintro ⟨-, rfl, w, hClaimant, rfl⟩
      rw [hClaimant]

/-- The slot of a view-model and an emitter: what matters are the earlier view-models that
are not excluded and have the same file name. -/
theorem plan_pairs_getElem? (hNodup : (emitters.map (·.platform)).Nodup) (hv : vs[i]? = some v)
    (he : emitters[j]? = some e) :
    (plan [] (pairs emitters vs))[i * emitters.length + j]? =
      some ((v, e), slotAfter (vs.take i) v e.platform) := by
  rw [plan_getElem? Claims.of_nil, pairs_getElem? hv he, List.nil_append, Option.map_some,
    pairs_take_index hv he]
  have hMem : e ∈ emitters := List.mem_of_getElem? he
  have hOthers : e.platform ∉ (emitters.take j).map (·.platform) := by
    obtain ⟨hj, hej⟩ := List.getElem?_eq_some_iff.1 he
    intro hm
    rw [← List.take_append_drop j emitters, List.map_append, List.nodup_append] at hNodup
    refine hNodup.2.2 _ hm e.platform ?_ rfl
    rw [List.drop_eq_getElem_cons hj, hej]
    simp
  have hFind : (pairs emitters (vs.take i) ++ (emitters.take j).map fun e => (v, e)).find?
      (fun q => q.wants e.platform (v.fileName e.platform)) =
      (claimant? (vs.take i) e.platform (v.fileName e.platform)).map fun w => (w, e) := by
    rw [List.find?_append, find?_pairs hNodup hMem, find?_block_none v hOthers, Option.or_none]
  unfold slotAmong slotAfter
  rw [show Pair.fileName (v, e) = v.fileName e.platform from rfl, hFind]
  cases claimant? (vs.take i) e.platform (v.fileName e.platform) <;> rfl

end Index

/-! ## Jobs -/

/-- The pairs of a plan that are generated. -/
def jobsOf (slots : List (Pair × Slot)) : List Pair :=
  slots.filterMap fun x => if x.2 = .job then some x.1 else none

theorem mem_jobsOf {slots : List (Pair × Slot)} {p : Pair} :
    p ∈ jobsOf slots ↔ (p, .job) ∈ slots := by
  simp [jobsOf, List.mem_filterMap]

theorem mem_of_mem_jobsOf {claims : Claims} {ps : List Pair} {p : Pair}
    (h : p ∈ jobsOf (plan claims ps)) : p ∈ ps := by
  have hMem := List.mem_map_of_mem (f := Prod.fst) (mem_jobsOf.1 h)
  rwa [plan_pairs] at hMem

end ViewAdapters.Emission
