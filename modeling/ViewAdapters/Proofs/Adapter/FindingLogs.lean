import ViewAdapters.Diagnostic
import ViewAdapters.Proofs.Order.Repeats

/-!
# Logs of findings

A log that starts empty holds what was recorded in it, without the repeats, after every call. Its
list and its set stay in step, so nothing that it tells depends on how often a finding came.

* `items_ofList`: the items are the recorded findings without repeats, in order.
* `size_ofList`: the set is as large as the list is long.
* `recordAll_eq_self_iff`: a log takes no notice of what it holds, and of nothing else.
* `keeps_recorded`: all of it for every sequence of records.
-/

namespace ViewAdapters.DiagnosticLog

/-! ## One record and all of them -/

theorem ofList_concat (ds : List Diagnostic) (d : Diagnostic) :
    ofList (ds ++ [d]) = (ofList ds).record d := by
  simp only [ofList, recordAll, List.foldl_append, List.foldl_cons, List.foldl_nil]

theorem mem_ofList {ds : List Diagnostic} {d : Diagnostic} : d ∈ (ofList ds).items ↔ d ∈ ds := by
  have hNone : d ∉ empty.items := List.not_mem_nil
  rw [ofList, mem_recordAll]
  simp [hNone]

theorem items_ofList (ds : List Diagnostic) : (ofList ds).items = ds.eraseDups := by
  induction ds using List.reverseRecOn with
  | nil => rfl
  | append_singleton ds d ih =>
    rw [ofList_concat, items_record, Repeats.eraseDups_concat]
    simp only [ih, List.mem_eraseDups]

theorem record_eq_self_iff {log : DiagnosticLog} {d : Diagnostic} :
    log.record d = log ↔ d ∈ log.items := by
  constructor
  · intro h
    rw [← h, mem_record]
    exact .inr rfl
  · intro h
    rw [record, dif_pos ((log.mem_seen d).2 h)]

theorem recordAll_eq_self_iff {log : DiagnosticLog} {ds : List Diagnostic} :
    log.recordAll ds = log ↔ ds ⊆ log.items := by
  constructor
  · intro h d hd
    rw [← h, mem_recordAll]
    exact .inr hd
  · intro h
    unfold recordAll
    induction ds with
    | nil => rfl
    | cons d rest ih =>
      rw [List.cons_subset] at h
      rw [List.foldl_cons, record_eq_self_iff.2 h.1, ih h.2]

/-! ## The list and the set -/

theorem size_record {log : DiagnosticLog} (h : log.seen.size = log.items.length)
    (d : Diagnostic) : (log.record d).seen.size = (log.record d).items.length := by
  rw [items_record]
  unfold record
  by_cases hKnown : d ∈ log.items
  · simp [log.mem_seen, hKnown, h]
  · simp [log.mem_seen, hKnown, Std.HashSet.size_insert, h]

theorem size_ofList (ds : List Diagnostic) :
    (ofList ds).seen.size = (ofList ds).items.length := by
  induction ds using List.reverseRecOn with
  | nil => rfl
  | append_singleton ds d ih =>
    rw [ofList_concat]
    exact size_record ih d

/-! ## After every call -/

/-- What a log is after a sequence of records. -/
structure Keeps (log : DiagnosticLog) (ds : List Diagnostic) : Prop where
  /-- What equals an earlier finding is left out, and all else stays in its order. -/
  items : log.items = ds.eraseDups
  /-- The set holds what was recorded, each finding once, as the list does. -/
  seen : ∀ d, (d ∈ log.seen ↔ d ∈ log.items) ∧ (d ∈ log.items ↔ d ∈ ds)
  size : log.seen.size = log.items.length
  nodup : log.items.Nodup
  length : log.length = log.items.length
  isEmpty : (log.isEmpty = true ↔ log.items = []) ∧ (log.isEmpty = true ↔ ds = [])
  /-- To record more makes no difference exactly if all of it was recorded before. -/
  again : ∀ es, log.recordAll es = log ↔ es ⊆ ds

theorem isEmpty_iff {log : DiagnosticLog} : log.isEmpty = true ↔ log.items = [] :=
  List.isEmpty_iff

theorem items_ofList_eq_nil_iff {ds : List Diagnostic} : (ofList ds).items = [] ↔ ds = [] := by
  simp only [List.eq_nil_iff_forall_not_mem, mem_ofList]

/-- However often findings are recorded, after each call the log holds those recorded so far
without their repeats, its set and its measures agree with its list, and it takes no notice of
what it holds. -/
theorem keeps_recorded (ds : List Diagnostic) (calls : Nat) :
    ((ds.take calls).foldl record empty).Keeps (ds.take calls) := by
  change (ofList (ds.take calls)).Keeps (ds.take calls)
  generalize ds.take calls = recorded
  refine ⟨items_ofList recorded, fun d => ⟨(ofList recorded).mem_seen d, mem_ofList⟩,
    size_ofList recorded, (ofList recorded).nodup, rfl,
    ⟨isEmpty_iff, isEmpty_iff.trans items_ofList_eq_nil_iff⟩, fun es => ?_⟩
  rw [recordAll_eq_self_iff]
  have hSame : ∀ d, d ∈ (ofList recorded).items ↔ d ∈ recorded := fun d => mem_ofList
  exact ⟨fun h d hd => (hSame d).1 (h hd), fun h d hd => (hSame d).2 (h hd)⟩

end ViewAdapters.DiagnosticLog
