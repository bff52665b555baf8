import Mathlib.Data.List.Forall2
import Mathlib.Data.List.Nodup
import Mathlib.Data.List.Perm.Basic
import ViewAdapters.Usage

/-!
# Sums of usage

The usage of attributes is a sum over view-models, and within a view-model over its members, so
no order makes a difference. A member has each kind of attribute at most once.

* `ViewModel.count_attributeKinds`: a kind occurs once for every member that has it.
* `Usage.ofAll_cons`: the usage of one more view-model.
* `Usage.ofAll_perm`, `Usage.ofAll_congr`: view-models and members in other orders.
* `Usage.members_eq`, `Usage.viewModelsWithAttributes_eq`: what is counted.
* `Usage.addsUp_ofAll`: the laws of usage.
-/

namespace ViewAdapters

/-! ## Kinds of members -/

/-- Each kind of attribute is counted once for a member. -/
theorem nodup_kindsOf {flags : List (AttributeKind × Bool)} (h : (flags.map Prod.fst).Nodup) :
    (kindsOf flags).Nodup :=
  h.sublist (List.filter_sublist.map _)

theorem Property.nodup_attributeKinds (p : Property) : p.attributeKinds.Nodup :=
  nodup_kindsOf (by simp)

theorem Command.nodup_attributeKinds (c : Command) : c.attributeKinds.Nodup :=
  nodup_kindsOf (by simp)

/-- Where no member has a kind twice, a kind occurs as often as there are members that have it. -/
theorem count_flatMap_eq_countP {α : Type} {kinds : α → List AttributeKind}
    (h : ∀ member, (kinds member).Nodup) (members : List α) (kind : AttributeKind) :
    (members.flatMap kinds).count kind = members.countP fun member => kind ∈ kinds member := by
  induction members with
  | nil => rfl
  | cons member rest ih =>
    rw [List.flatMap_cons, List.count_append, (h member).count, ih, List.countP_cons,
      Nat.add_comm]
    simp only [decide_eq_true_eq]

namespace ViewModel

/-- The kinds of a view-model are those of its properties and its commands. -/
theorem count_attributeKinds (v : ViewModel) (kind : AttributeKind) :
    v.attributeKinds.count kind =
      v.properties.countP (fun p => kind ∈ p.attributeKinds) +
        v.commands.countP (fun c => kind ∈ c.attributeKinds) := by
  rw [attributeKinds, List.count_append,
    count_flatMap_eq_countP Property.nodup_attributeKinds,
    count_flatMap_eq_countP Command.nodup_attributeKinds]

/-- Another view-model has the same members in some order, and is excluded on the same
platforms. Its names are of no account. -/
structure Reorders (v w : ViewModel) : Prop where
  properties : v.properties.Perm w.properties
  commands : v.commands.Perm w.commands
  excluded : v.excluded = w.excluded

/-- The order of the members does not change which kinds are used how often. -/
theorem Reorders.attributeKinds {v w : ViewModel} (h : v.Reorders w) :
    v.attributeKinds.Perm w.attributeKinds :=
  (h.properties.flatMap_right _).append (h.commands.flatMap_right _)

/-- View-models in some order, each of them with its members in some order. -/
def Rearranges (vs ws : List ViewModel) : Prop :=
  ∃ ordered, vs.Perm ordered ∧ List.Forall₂ Reorders ordered ws

/-- Whether a view-model is excluded somewhere or has a member with an attribute. -/
def usesAttributes (v : ViewModel) : Bool := v.excluded.isAny || !v.attributeKinds.isEmpty

/-- A view-model uses no attribute if it is excluded nowhere and no member uses one. -/
theorem usesAttributes_eq_false_iff {v : ViewModel} :
    v.usesAttributes = false ↔ (∀ p, v.excluded.get p = false) ∧ v.attributeKinds = [] := by
  have hExcluded : v.excluded.isAny = false ↔ ∀ p, v.excluded.get p = false := by
    rw [Exclusion.isAny, Bool.or_eq_false_iff]
    constructor
    · rintro ⟨hAndroid, hIos⟩ p
      cases p with
      | android => exact hAndroid
      | ios => exact hIos
    · intro h
      exact ⟨h .android, h .ios⟩
  rw [usesAttributes, Bool.or_eq_false_iff, hExcluded]
  simp

end ViewModel

/-! ## Sums in any order -/

namespace Usage

/-- One more view-model adds its own counts. -/
theorem ofAll_cons (v : ViewModel) (vs : List ViewModel) :
    ofAll (v :: vs) = (zero.count v).add (ofAll vs) := ofAll_append [v] vs

/-- Two view-models can be counted in either order. -/
theorem count_right_comm (u : Usage) (v w : ViewModel) :
    (u.count v).count w = (u.count w).count v := by
  simp only [count, Nat.add_right_comm]

/-- The order of the view-models does not matter. -/
theorem ofAll_perm {vs ws : List ViewModel} (h : vs.Perm ws) : ofAll vs = ofAll ws :=
  h.foldl_eq' (fun v _ w _ u => count_right_comm u v w) zero

theorem count_congr {v w : ViewModel} (h : v.Reorders w) (u : Usage) : u.count v = u.count w := by
  have hEmpty : v.attributeKinds.isEmpty = w.attributeKinds.isEmpty := by
    rw [Bool.eq_iff_iff, List.isEmpty_iff, List.isEmpty_iff]
    exact ⟨fun hv => (hv ▸ h.attributeKinds).nil_eq.symm, fun hw =>
      (hw ▸ h.attributeKinds).eq_nil⟩
  simp only [count, h.excluded, hEmpty, h.properties.length_eq, h.commands.length_eq,
    h.attributeKinds.count_eq]

theorem ofAll_congr {vs ws : List ViewModel} (h : List.Forall₂ ViewModel.Reorders vs ws) :
    ofAll vs = ofAll ws := by
  induction h with
  | nil => rfl
  | cons hHead _ ih => rw [ofAll_cons, ofAll_cons, ih, count_congr hHead]

/-- Neither the order of view-models nor that of their members matters. -/
theorem ofAll_eq_of_rearranges {vs ws : List ViewModel} (h : ViewModel.Rearranges vs ws) :
    ofAll ws = ofAll vs := by
  obtain ⟨ordered, hPerm, hMembers⟩ := h
  rw [ofAll_perm hPerm, ofAll_congr hMembers]

/-! ## What is counted -/

section Components

theorem add_viewModels (u w : Usage) : (u.add w).viewModels = u.viewModels + w.viewModels := rfl

theorem add_viewModelsWithAttributes (u w : Usage) : (u.add w).viewModelsWithAttributes =
    u.viewModelsWithAttributes + w.viewModelsWithAttributes := rfl

theorem add_properties (u w : Usage) : (u.add w).properties = u.properties + w.properties := rfl

theorem add_commands (u w : Usage) : (u.add w).commands = u.commands + w.commands := rfl

theorem add_members (u w : Usage) (kind : AttributeKind) :
    (u.add w).members kind = u.members kind + w.members kind := rfl

variable (vs : List ViewModel)

theorem viewModels_eq : (ofAll vs).viewModels = vs.length := by
  induction vs with
  | nil => rfl
  | cons v rest ih =>
    have hFirst : (zero.count v).viewModels = 1 := rfl
    rw [ofAll_cons, add_viewModels, hFirst, ih, List.length_cons, Nat.add_comm]

theorem viewModelsWithAttributes_eq :
    (ofAll vs).viewModelsWithAttributes = vs.countP (·.usesAttributes) := by
  induction vs with
  | nil => rfl
  | cons v rest ih =>
    have hFirst : (zero.count v).viewModelsWithAttributes = if v.usesAttributes then 1 else 0 :=
      Nat.zero_add _
    rw [ofAll_cons, add_viewModelsWithAttributes, hFirst, ih, List.countP_cons, Nat.add_comm]

theorem properties_eq : (ofAll vs).properties = (vs.flatMap (·.properties)).length := by
  induction vs with
  | nil => rfl
  | cons v rest ih =>
    have hFirst : (zero.count v).properties = v.properties.length := Nat.zero_add _
    rw [ofAll_cons, add_properties, hFirst, ih, List.flatMap_cons, List.length_append]

theorem commands_eq : (ofAll vs).commands = (vs.flatMap (·.commands)).length := by
  induction vs with
  | nil => rfl
  | cons v rest ih =>
    have hFirst : (zero.count v).commands = v.commands.length := Nat.zero_add _
    rw [ofAll_cons, add_commands, hFirst, ih, List.flatMap_cons, List.length_append]

theorem members_cons (v : ViewModel) (kind : AttributeKind) :
    (ofAll (v :: vs)).members kind = v.attributeKinds.count kind + (ofAll vs).members kind := by
  have hFirst : (zero.count v).members kind = v.attributeKinds.count kind := Nat.zero_add _
  rw [ofAll_cons, add_members, hFirst]

/-- A kind is counted once for every member that uses it. -/
theorem members_eq (kind : AttributeKind) : (ofAll vs).members kind =
    (vs.flatMap (·.properties)).countP (fun p => kind ∈ p.attributeKinds) +
      (vs.flatMap (·.commands)).countP (fun c => kind ∈ c.attributeKinds) := by
  induction vs with
  | nil => rfl
  | cons v rest ih =>
    rw [members_cons, ih, v.count_attributeKinds, List.flatMap_cons, List.flatMap_cons,
      List.countP_append, List.countP_append]
    omega

/-- Nothing is counted for members exactly if no member uses an attribute. -/
theorem members_eq_zero_iff :
    (∀ kind, (ofAll vs).members kind = 0) ↔ ∀ v ∈ vs, v.attributeKinds = [] := by
  induction vs with
  | nil => simp [ofAll, zero]
  | cons v rest ih =>
    have hFirst : (∀ kind, v.attributeKinds.count kind = 0) ↔ v.attributeKinds = [] := by
      simp only [List.count_eq_zero, List.eq_nil_iff_forall_not_mem]
    simp only [members_cons, Nat.add_eq_zero_iff, forall_and, ih, hFirst, List.forall_mem_cons]

/-- No view-model is counted as using attributes exactly if no member uses one and none is
excluded. -/
theorem viewModelsWithAttributes_eq_zero_iff :
    (ofAll vs).viewModelsWithAttributes = 0 ↔
      (∀ kind, (ofAll vs).members kind = 0) ∧
        ∀ v ∈ vs, ∀ platform, v.excluded.get platform = false := by
  rw [viewModelsWithAttributes_eq, List.countP_eq_zero, members_eq_zero_iff, ← forall₂_and]
  refine forall₂_congr fun v _ => ?_
  rw [Bool.not_eq_true, ViewModel.usesAttributes_eq_false_iff, and_comm]

end Components

/-! ## Laws -/

/-- The usage of lists together is the sum of their usages, and does not depend on the order of
view-models or members. A kind is counted once for every member that has it, so no count exceeds
the number of members. No view-model uses attributes exactly if no kind is counted and none is
excluded anywhere. -/
theorem addsUp_ofAll (vs ws : List ViewModel) :
    ofAll (vs ++ ws) = (ofAll vs).add (ofAll ws) ∧
      (∀ us, ViewModel.Rearranges vs us → ofAll us = ofAll vs) ∧
      (ofAll vs).viewModelsWithAttributes ≤ (ofAll vs).viewModels ∧
      (∀ kind, (ofAll vs).members kind ≤ (ofAll vs).properties + (ofAll vs).commands ∧
        (ofAll vs).members kind =
          (vs.flatMap (·.properties)).countP (fun p => kind ∈ p.attributeKinds) +
            (vs.flatMap (·.commands)).countP (fun c => kind ∈ c.attributeKinds)) ∧
      ((ofAll vs).viewModelsWithAttributes = 0 ↔
        (∀ kind, (ofAll vs).members kind = 0) ∧
          ∀ v ∈ vs, ∀ platform, v.excluded.get platform = false) := by
  refine ⟨ofAll_append vs ws, fun us h => ofAll_eq_of_rearranges h, ?_,
    fun kind => ⟨?_, members_eq vs kind⟩, viewModelsWithAttributes_eq_zero_iff vs⟩
  · rw [viewModelsWithAttributes_eq, viewModels_eq]
    exact List.countP_le_length
  · rw [members_eq, properties_eq, commands_eq]
    exact Nat.add_le_add List.countP_le_length List.countP_le_length

/-- A view-model with a property for dates that is left out on one platform, and one without
attributes. -/
def agenda : ViewModel where
  name := "AgendaViewModel"
  qualifiedName := "Planner.AgendaViewModel"
  originModule := "Planner"
  properties := [
    { name := "Start", type := .primitive "datetime", isReadOnly := false, element := none,
      typeOverride := none, dateSemantics := some .localDateTime, validation := none,
      batching := none, excluded := ⟨false, true⟩, warning := none },
    { name := "Title", type := .primitive "string", isReadOnly := false, element := none,
      typeOverride := none, dateSemantics := none, validation := none, batching := none,
      excluded := Exclusion.none, warning := some "" }]
  commands := []
  excluded := Exclusion.none

/-- The same view-model with its properties the other way round. -/
def turnedAgenda : ViewModel := { agenda with properties := agenda.properties.reverse }

/-- The empty view-model in front and the properties turned round make no difference. -/
theorem addsUp_agenda :
    ViewModel.Rearranges [agenda, { agenda with properties := [] }]
        [{ agenda with properties := [] }, turnedAgenda] ∧
      ofAll [{ agenda with properties := [] }, turnedAgenda] =
        ofAll [agenda, { agenda with properties := [] }] ∧
      (ofAll [agenda]).viewModelsWithAttributes = 1 := by
  have hTurned : agenda.Reorders turnedAgenda :=
    ⟨(List.reverse_perm _).symm, List.Perm.refl _, rfl⟩
  have hRearranges : ViewModel.Rearranges [agenda, { agenda with properties := [] }]
      [{ agenda with properties := [] }, turnedAgenda] :=
    ⟨_, List.Perm.swap _ _ _,
      .cons ⟨List.Perm.refl _, List.Perm.refl _, rfl⟩ (.cons hTurned .nil)⟩
  exact ⟨hRearranges, (addsUp_ofAll _ []).2.1 _ hRearranges, by decide⟩

end Usage
end ViewAdapters
