import Std.Data.HashSet

/-!
# Diagnostics

Findings that do not stop the generation of an adapter but must not be lost.
A log keeps each finding once, in the order of first record.

* `DiagnosticLog.items_record`: recording adds a new finding at the end and a
  known one not at all.
* `DiagnosticLog.mem_record`: a log holds what it held and what is recorded.
-/

namespace ViewAdapters

structure Diagnostic where
  code : String
  member : String
  message : String
  platform : String
  deriving DecidableEq, Hashable, Repr

namespace Diagnostic

def text (d : Diagnostic) : String :=
  d.code ++ " [" ++ d.platform ++ "] " ++ d.member ++ ": " ++ d.message

/-- A type has no counterpart on a platform and is replaced by another. -/
def unmappedTypeCode : String := "unmapped-type"

/-- A command asks for two threads. -/
def conflictingThreadingCode : String := "conflicting-threading"

end Diagnostic

/-- Findings in order, with a set of them for fast look-up. -/
structure DiagnosticLog where
  items : List Diagnostic
  seen : Std.HashSet Diagnostic
  mem_seen : ∀ d, d ∈ seen ↔ d ∈ items
  nodup : items.Nodup

namespace DiagnosticLog

def empty : DiagnosticLog where
  items := []
  seen := ∅
  mem_seen := by simp
  nodup := .nil

def record (log : DiagnosticLog) (d : Diagnostic) : DiagnosticLog :=
  if h : d ∈ log.seen then log
  else
    { items := log.items ++ [d]
      seen := log.seen.insert d
      mem_seen := by
        intro e
        rw [Std.HashSet.mem_insert, log.mem_seen]
        simp only [beq_iff_eq, List.mem_append, List.mem_singleton]
        rw [or_comm, eq_comm]
      nodup := by
        rw [log.mem_seen] at h
        rw [List.nodup_append]
        refine ⟨log.nodup, by simp, ?_⟩
        rintro a ha b hb rfl
        simp at hb
        exact h (hb ▸ ha) }

def recordAll (log : DiagnosticLog) (ds : List Diagnostic) : DiagnosticLog := ds.foldl record log

def ofList (ds : List Diagnostic) : DiagnosticLog := empty.recordAll ds

/-- How many findings a log holds. -/
def length (log : DiagnosticLog) : Nat := log.items.length

def isEmpty (log : DiagnosticLog) : Bool := log.items.isEmpty

theorem items_record (log : DiagnosticLog) (d : Diagnostic) :
    (log.record d).items = if d ∈ log.items then log.items else log.items ++ [d] := by
  unfold record
  by_cases h : d ∈ log.items
  · simp [log.mem_seen, h]
  · simp [log.mem_seen, h]

theorem mem_record {log : DiagnosticLog} {d e : Diagnostic} :
    e ∈ (log.record d).items ↔ e ∈ log.items ∨ e = d := by
  rw [items_record]
  split
  · constructor
    · exact .inl
    · rintro (h | rfl) <;> assumption
  · simp

theorem mem_recordAll {log : DiagnosticLog} {ds : List Diagnostic} {e : Diagnostic} :
    e ∈ (log.recordAll ds).items ↔ e ∈ log.items ∨ e ∈ ds := by
  unfold recordAll
  induction ds generalizing log with
  | nil => simp
  | cons d r ih => rw [List.foldl_cons, ih, mem_record, List.mem_cons, or_assoc]

end DiagnosticLog
end ViewAdapters
