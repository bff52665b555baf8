import Mathlib.Data.List.Induction
import Mathlib.Data.List.Nodup

/-!
# Lists without repeats

What is left of a list when every repeat of an earlier item is removed.

* `eraseDups_concat`: one more item is new at the end, or is a repeat and makes no difference.
* `nodup_eraseDups`: nothing is left twice.
* `eraseDups_of_nodup`: nothing is removed where nothing is repeated.
-/

namespace ViewAdapters.Repeats

variable {α : Type} [DecidableEq α]

theorem eraseDups_concat (items : List α) (a : α) :
    (items ++ [a]).eraseDups = if a ∈ items then items.eraseDups else items.eraseDups ++ [a] := by
  rw [List.eraseDups_append]
  by_cases h : a ∈ items
  · have hNone : [a].removeAll items = [] := by simp [List.removeAll, h]
    rw [if_pos h, hNone, List.eraseDups_nil, List.append_nil]
  · have hOne : [a].removeAll items = [a] := by simp [List.removeAll, h]
    rw [if_neg h, hOne, List.eraseDups_cons, List.filter_nil, List.eraseDups_nil]

theorem nodup_eraseDups (items : List α) : items.eraseDups.Nodup := by
  induction items using List.reverseRecOn with
  | nil => simp
  | append_singleton items a ih =>
    rw [eraseDups_concat]
    split
    · exact ih
    · rename_i hNew
      have hNotLeft : a ∉ items.eraseDups := fun hMem => hNew (List.mem_eraseDups.1 hMem)
      exact List.Nodup.append ih (List.nodup_singleton a) (by simpa using hNotLeft)

theorem eraseDups_of_nodup {items : List α} (h : items.Nodup) : items.eraseDups = items := by
  induction items using List.reverseRecOn with
  | nil => rfl
  | append_singleton items a ih =>
    obtain ⟨hItems, -, hNew⟩ := List.nodup_append.1 h
    rw [eraseDups_concat, if_neg fun hMem => hNew a hMem a (by simp) rfl, ih hItems]

end ViewAdapters.Repeats
