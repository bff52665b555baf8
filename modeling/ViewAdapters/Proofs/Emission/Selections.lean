import ViewAdapters.Model.Platform
import ViewAdapters.Proofs.Order.Repeats

/-!
# Selections of platforms

What a request for platforms comes to. An item stands for one platform or for all of them, and a
text that is none of the words of requests stands for nothing. The platforms of the items follow
each other, and every repeat of an earlier one is left out.

* `Selector.expand_of_expands`, `Selector.expand_of_isUnknown`: what one item stands for.
* `Selector.addNew_eraseDups`: to add platforms is to ask for them behind the earlier ones.
* `Selector.selectAfter_of_expands`, `Selector.selectAfter_of_namesFirst`: all items, behind
  whatever was asked for before them.
* `Selector.select_outcomes`: a request is refused for its first unknown item or because it is
  empty, and what is selected otherwise is selected again as it is.
-/

namespace ViewAdapters

/-! ## Items of a request -/

theorem Platform.name_injective {p q : Platform} (h : p.name = q.name) : p = q := by
  revert h
  cases p <;> cases q <;> decide

/-- A platform is known by its name in any case, with blanks around it. -/
theorem Platform.ofText?_eq_some_iff {text : String} {p : Platform} :
    ofText? text = some p ↔ Text.lower (Text.trim text) = p.name := by
  unfold ofText?
  generalize Text.lower (Text.trim text) = word
  constructor
  · intro h
    have hName := List.find?_some h
    exact (beq_iff_eq.1 hName).symm
  · rintro rfl
    cases p <;> decide

theorem Platform.intercalate_names : ", ".intercalate (all.map name) = "android, ios" := by
  simp only [all, name, List.map_cons, List.map_nil, String.intercalate_cons_cons,
    String.intercalate_singleton, String.reduceAppend]

theorem PlatformError.message_unknown (text : String) :
    (unknown text).message =
      "Unknown platform '" ++ text ++ "'. Supported platforms: android, ios" := by
  change "Unknown platform '" ++ text ++ "'. Supported platforms: " ++
    ", ".intercalate (Platform.all.map Platform.name) = _
  rw [Platform.intercalate_names]
  simp only [String.append_assoc, String.reduceAppend]

namespace Selector

/-- The words that a request is made in. -/
def requestWords : List String := everyPlatform :: Platform.all.map Platform.name

/-- An item is a text that is no word of a request, whatever its case and the blanks around it. -/
def IsUnknown : Selector → Prop
  | platform _ => False
  | named text => Text.lower (Text.trim text) ∉ requestWords

instance : DecidablePred IsUnknown
  | platform _ => inferInstanceAs (Decidable False)
  | named text => inferInstanceAs (Decidable (Text.lower (Text.trim text) ∉ requestWords))

/-- The platforms that an item stands for, in order. -/
inductive Expands : Selector → List Platform → Prop
  | itself (p : Platform) : Expands (platform p) [p]
  | one {text : String} {p : Platform} (h : Text.lower (Text.trim text) = p.name) :
      Expands (named text) [p]
  | every {text : String} (h : Text.lower (Text.trim text) = everyPlatform) :
      Expands (named text) Platform.all

section Item

variable {item : Selector} {text : String} {more : List Platform}

theorem name_ne_everyPlatform (p : Platform) : p.name ≠ everyPlatform := by
  cases p <;> decide

/-- The words of requests are the names of the platforms and one word for all of them. -/
theorem mem_requestWords {word : String} :
    word ∈ requestWords ↔ word = everyPlatform ∨ ∃ p : Platform, word = p.name := by
  simp only [requestWords, List.mem_cons, List.mem_map, Platform.mem_all, true_and, eq_comm]

/-- What is not unknown stands for some platforms. -/
theorem exists_expands (h : ¬ item.IsUnknown) : ∃ more, item.Expands more := by
  cases item with
  | platform p => exact ⟨[p], .itself p⟩
  | named text =>
    rcases mem_requestWords.1 (not_not.1 h) with hEvery | ⟨p, hName⟩
    · exact ⟨_, .every hEvery⟩
    · exact ⟨[p], .one hName⟩

theorem Expands.ne_nil (h : item.Expands more) : more ≠ [] := by
  cases h <;> simp [Platform.all]

/-- An item expands to the platforms that it stands for. -/
theorem expand_of_expands (h : item.Expands more) : item.expand = .ok more := by
  cases h with
  | itself p => rfl
  | every h => rw [expand, if_pos h]
  | @one text p h =>
    rw [expand, h, if_neg (name_ne_everyPlatform p), Platform.ofText,
      Platform.ofText?_eq_some_iff.2 h]
    rfl

theorem expand_of_isUnknown (h : (named text).IsUnknown) :
    (named text).expand = .error (.unknown text) := by
  obtain ⟨hEvery, hNames⟩ := not_or.1 (mt mem_requestWords.2 h)
  have hNone : Platform.ofText? text = none := by
    refine Option.eq_none_iff_forall_ne_some.2 fun p hSome => ?_
    exact hNames ⟨p, Platform.ofText?_eq_some_iff.1 hSome⟩
  rw [expand, if_neg hEvery, Platform.ofText, hNone]
  rfl

end Item

/-! ## One item after another -/

/-- Adding what is new keeps the first of all that were asked for. -/
theorem addNew_eraseDups (asked more : List Platform) :
    addNew asked.eraseDups more = (asked ++ more).eraseDups := by
  unfold addNew
  -- What was asked for grows with each platform, so that the chosen ones stay what is left of it.
  induction more generalizing asked with
  | nil => rw [List.foldl_nil, List.append_nil]
  | cons p rest ih =>
    have hStep : (if p ∈ asked.eraseDups then asked.eraseDups else asked.eraseDups ++ [p]) =
        (asked ++ [p]).eraseDups := by
      simp only [Repeats.eraseDups_concat, List.mem_eraseDups]
    rw [List.foldl_cons, hStep, ih, List.append_assoc, List.singleton_append]

/-- One item adds its platforms and leaves the others to the rest. -/
theorem selectAfter_cons {item : Selector} {more : List Platform} (h : item.Expands more)
    (chosen : List Platform) (rest : List Selector) :
    selectAfter chosen (item :: rest) = selectAfter (addNew chosen more) rest := by
  rw [selectAfter, expand_of_expands h]
  rfl

/-! ## Whole requests -/

/-- The first item of a request that is unknown is this text. -/
def NamesFirst (request : List Selector) (text : String) : Prop :=
  ∃ known rest, request = known ++ named text :: rest ∧
    (∀ item ∈ known, ¬ item.IsUnknown) ∧ (named text).IsUnknown

/-- What a request comes to: the platforms that it selects, or the message of its refusal. -/
inductive Selects (request : List Selector) : Except String (List Platform) → Prop
  | nothing (h : request = []) : Selects request (.error "At least one platform must be requested")
  | unknown {text : String} (h : NamesFirst request text) :
      Selects request
        (.error ("Unknown platform '" ++ text ++ "'. Supported platforms: android, ios"))
  | selected {expansions : List (List Platform)} (hSome : request ≠ [])
      (h : List.Forall₂ Expands request expansions) :
      Selects request (.ok expansions.flatten.eraseDups)

section Request

variable {request : List Selector} {expansions : List (List Platform)} {text : String}
  {platforms : List Platform}

/-- The items of a request add their platforms in order, each platform once. -/
theorem selectAfter_of_expands (h : List.Forall₂ Expands request expansions)
    (asked : List Platform) :
    selectAfter asked.eraseDups request = .ok (asked ++ expansions.flatten).eraseDups := by
  induction h generalizing asked with
  | nil => rw [selectAfter, List.flatten_nil, List.append_nil]
  | cons hItem _ ih =>
    rw [selectAfter_cons hItem, addNew_eraseDups, ih, List.flatten_cons, List.append_assoc]

/-- An unknown item is named whatever was chosen before it and whatever stands behind it. -/
theorem selectAfter_of_namesFirst (h : NamesFirst request text) (chosen : List Platform) :
    selectAfter chosen request = .error (.unknown text) := by
  obtain ⟨known, rest, rfl, hKnown, hUnknown⟩ := h
  induction known generalizing chosen with
  | nil =>
    rw [List.nil_append, selectAfter, expand_of_isUnknown hUnknown]
    rfl
  | cons item known ih =>
    obtain ⟨hItem, hLater⟩ := List.forall_mem_cons.1 hKnown
    obtain ⟨more, hMore⟩ := exists_expands hItem
    rw [List.cons_append, selectAfter_cons hMore]
    exact ih _ hLater

/-- Without an unknown item every item stands for some platforms. -/
theorem exists_expansions (h : ∀ item ∈ request, ¬ item.IsUnknown) :
    ∃ expansions, List.Forall₂ Expands request expansions := by
  induction request with
  | nil => exact ⟨[], .nil⟩
  | cons item rest ih =>
    obtain ⟨hItem, hRest⟩ := List.forall_mem_cons.1 h
    obtain ⟨more, hMore⟩ := exists_expands hItem
    obtain ⟨expansions, hExpansions⟩ := ih hRest
    exact ⟨more :: expansions, .cons hMore hExpansions⟩

/-- Of the unknown items one is the first. -/
theorem exists_namesFirst (h : ∃ item ∈ request, item.IsUnknown) :
    ∃ text, NamesFirst request text := by
  have hFound : (request.find? fun item => decide item.IsUnknown).isSome := by
    simpa only [List.find?_isSome, decide_eq_true_eq] using h
  obtain ⟨item, hItem⟩ := Option.isSome_iff_exists.1 hFound
  obtain ⟨hUnknown, known, rest, hRequest, hKnown⟩ := List.find?_eq_some_iff_append.1 hItem
  cases item with
  | platform p => exact False.elim (of_decide_eq_true hUnknown)
  | named text =>
    refine ⟨text, known, rest, hRequest, fun item hMem => ?_, of_decide_eq_true hUnknown⟩
    simpa using hKnown item hMem

theorem NamesFirst.exists_isUnknown (h : NamesFirst request text) :
    ∃ item ∈ request, item.IsUnknown := by
  obtain ⟨known, rest, rfl, -, hUnknown⟩ := h
  exact ⟨named text, by simp, hUnknown⟩

/-- A request ends at its first unknown item. -/
theorem select_of_namesFirst (h : NamesFirst request text) :
    select request = .error (.unknown text) := by
  rw [select, selectAfter_of_namesFirst h]
  rfl

/-- A request with items asks for some platform. -/
theorem eraseDups_expansions_ne_nil (hSome : request ≠ [])
    (h : List.Forall₂ Expands request expansions) : expansions.flatten.eraseDups ≠ [] := by
  cases h with
  | nil => exact absurd rfl hSome
  | @cons _ more _ later hItem _ =>
    obtain ⟨p, hp⟩ := List.exists_mem_of_ne_nil more hItem.ne_nil
    have hMem : p ∈ (more :: later).flatten := List.mem_flatten_of_mem List.mem_cons_self hp
    exact List.ne_nil_of_mem (List.mem_eraseDups.2 hMem)

theorem select_of_expands (hSome : request ≠ []) (h : List.Forall₂ Expands request expansions) :
    select request = .ok expansions.flatten.eraseDups := by
  have hAll : selectAfter [] request = .ok expansions.flatten.eraseDups :=
    selectAfter_of_expands h []
  have hNonempty : expansions.flatten.eraseDups.isEmpty = false :=
    List.isEmpty_eq_false_iff.2 (eraseDups_expansions_ne_nil hSome h)
  rw [select, hAll]
  change (if expansions.flatten.eraseDups.isEmpty = true then _ else _) = _
  rw [hNonempty]
  rfl

/-- Selection gives each answer that the relation allows. -/
theorem select_of_selects {answer : Except String (List Platform)} (h : Selects request answer) :
    (select request).mapError PlatformError.message = answer := by
  cases h with
  | nothing h =>
    subst h
    rfl
  | @unknown text h =>
    rw [select_of_namesFirst h]
    exact congrArg Except.error (PlatformError.message_unknown text)
  | selected hSome h =>
    rw [select_of_expands hSome h]
    rfl

/-- Every request has an answer. -/
theorem exists_selects (request : List Selector) : ∃ answer, Selects request answer := by
  by_cases hUnknown : ∃ item ∈ request, item.IsUnknown
  · obtain ⟨text, hFirst⟩ := exists_namesFirst hUnknown
    exact ⟨_, .unknown hFirst⟩
  · obtain ⟨expansions, hExpands⟩ :=
      exists_expansions fun item hItem hNot => hUnknown ⟨item, hItem, hNot⟩
    by_cases hSome : request = []
    · exact ⟨_, .nothing hSome⟩
    · exact ⟨_, .selected hSome hExpands⟩

theorem selects_select (request : List Selector) :
    Selects request ((select request).mapError PlatformError.message) := by
  obtain ⟨answer, h⟩ := exists_selects request
  rw [select_of_selects h]
  exact h

theorem selects_of_ok (h : select request = .ok platforms) : Selects request (.ok platforms) := by
  have hSelects := selects_select request
  rwa [h] at hSelects

theorem selects_of_error {error : PlatformError} (h : select request = .error error) :
    Selects request (.error error.message) := by
  have hSelects := selects_select request
  rwa [h] at hSelects

/-- A request is refused because it is empty or holds an unknown item. -/
theorem Selects.cause {message : String} (h : Selects request (.error message)) :
    request = [] ∨ ∃ item ∈ request, item.IsUnknown := by
  cases h with
  | nothing hNone => exact .inl hNone
  | unknown hFirst => exact .inr hFirst.exists_isUnknown

/-- No platform is selected twice. -/
theorem select_nodup (h : select request = .ok platforms) : platforms.Nodup := by
  cases selects_of_ok h with
  | selected _ _ => exact Repeats.nodup_eraseDups _

/-- Platforms that are asked for by themselves are selected as they are. -/
theorem select_platforms (hSome : platforms ≠ []) (hNodup : platforms.Nodup) :
    select (platforms.map platform) = .ok platforms := by
  have hExpands : List.Forall₂ Expands (platforms.map platform) (platforms.map ([·])) := by
    rw [List.forall₂_map_left_iff, List.forall₂_map_right_iff, List.forall₂_same]
    exact fun p _ => .itself p
  have hRequest : platforms.map platform ≠ [] := by simpa using hSome
  have hFlatten : (platforms.map ([·])).flatten = platforms := by
    rw [← List.flatMap_def, List.flatMap_singleton']
  rw [select_of_expands hRequest hExpands, hFlatten, Repeats.eraseDups_of_nodup hNodup]

/-- A request is refused exactly if it is empty or has an unknown item, the first of which is then
named. Otherwise the platforms of its items follow each other without repeats, and to ask for these
platforms once more selects the same. -/
theorem select_outcomes (request : List Selector) :
    (∀ answer, (select request).mapError PlatformError.message = answer ↔
      Selects request answer) ∧
    ((∃ error, select request = .error error) ↔
      request = [] ∨ ∃ item ∈ request, item.IsUnknown) ∧
    ∀ platforms, select request = .ok platforms →
      platforms ≠ [] ∧ platforms.Nodup ∧ select (platforms.map platform) = .ok platforms := by
  refine ⟨fun answer => ⟨fun h => h ▸ selects_select request, select_of_selects⟩, ?_, ?_⟩
  · constructor
    · rintro ⟨error, hError⟩
      exact (selects_of_error hError).cause
    · rintro (rfl | hUnknown)
      · exact ⟨_, select_nil⟩
      · obtain ⟨text, hFirst⟩ := exists_namesFirst hUnknown
        exact ⟨_, select_of_namesFirst hFirst⟩
  · intro platforms hSelect
    have hNodup := select_nodup hSelect
    cases selects_of_ok hSelect with
    | selected hSome hExpands =>
      have hNonempty := eraseDups_expansions_ne_nil hSome hExpands
      exact ⟨hNonempty, hNodup, select_platforms hNonempty hNodup⟩

/-- What is asked for first stays in front of the other platforms that a later item adds. -/
theorem select_outcomes_mixed :
    select [named " iOS ", named "Both", platform .ios] = .ok [.ios, .android] ∧
      select ([.ios, .android].map platform) = .ok [.ios, .android] := by
  have hSelect : select [named " iOS ", named "Both", platform .ios] = .ok [.ios, .android] := by
    rfl
  exact ⟨hSelect, ((select_outcomes _).2.2 _ hSelect).2.2⟩

/-- What stands before an unknown item is of no use, and what stands behind it is not looked at. -/
example : select [named "both", named "windows", named "linux"] = .error (.unknown "windows") :=
  rfl

end Request
end Selector
end ViewAdapters
