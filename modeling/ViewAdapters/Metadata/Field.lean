import ViewAdapters.Document.Value
import ViewAdapters.Metadata.Error
import ViewAdapters.Text.Blank
import ViewAdapters.Text.Casing

/-!
# Fields of metadata documents

What the value of a field counts as: text, an integer, a truth value, a
mapping or a list. A value of the wrong kind counts as absent where that is
harmless and is a fault where the structure of the document depends on it.

* `requireText_eq_ok`: a required text is that of a text or a number, and is not empty.
* `readEach_eq_mapM`: items are read in order, each at its own place.
-/

namespace ViewAdapters.Metadata

open Document (Value Entries)

/-- The truth value that a word denotes, whatever its case and the blanks around it. -/
def truthOfWord (s : String) : Option Bool :=
  let word := Text.lower (Text.trim s)
  if word ∈ ["true", "yes", "1"] then some true
  else if word ∈ ["false", "no", "0"] then some false
  else none

/-- A truth value, or a word for one. -/
def asTruth : Value → Option Bool
  | .bool b => some b
  | .text s => truthOfWord s
  | _ => none

/-- Whether a value is true; what is no truth value is not. -/
def isTrue (v : Value) : Bool := asTruth v == some true

def requireMapping (place : Place) (v : Value) : Except Error Entries :=
  match v.unrolled with
  | .mapping entries => .ok entries
  | _ => .error (.fault place .notMapping)

/-- A mapping that may be left out. -/
def optionalMapping (place : Place) : Value → Except Error (Option Entries)
  | .null => .ok none
  | v => (requireMapping place v).map some

/-- A list that may be left out. -/
def optionalList (place : Place) (v : Value) : Except Error (List Value) :=
  match v.unrolled with
  | .null => .ok []
  | .list items => .ok items
  | _ => .error (.fault place .notList)

/-- The text of a text or a number. -/
def readText (v : Value) : Except Error (Option String) :=
  match v.asText with
  | .ok text => .ok text
  | .error fault => .error (.numeral fault)

/-- A text that is not empty. -/
def readFilledText (v : Value) : Except Error (Option String) :=
  (readText v).map fun text => text.filter fun s => !s.isEmpty

def requireText (place : Place) (v : Value) : Except Error String := do
  match ← readFilledText v with
  | some s => return s
  | none => throw (.fault place .missing)

theorem readText_eq_ok {v : Value} {text : Option String} :
    readText v = .ok text ↔ v.asText = .ok text := by
  unfold readText
  cases v.asText <;> simp

theorem requireText_eq_ok {place : Place} {v : Value} {s : String} :
    requireText place v = .ok s ↔ v.asText = .ok (some s) ∧ s.isEmpty = false := by
  rw [← readText_eq_ok]
  unfold requireText readFilledText
  cases readText v with
  | error e => simp [Except.map, bind, Except.bind]
  | ok text =>
    cases text with
    | none => simp [Except.map, bind, Except.bind, throw, throwThe, MonadExceptOf.throw]
    | some t =>
      by_cases ht : t.isEmpty
      · simp only [Except.map, Option.filter, ht, bind, Except.bind, Bool.not_true,
          Bool.false_eq_true, if_false, throw, throwThe, MonadExceptOf.throw, reduceCtorEq,
          Except.ok.injEq, Option.some.injEq, false_iff, not_and]
        rintro rfl
        simp [ht]
      · simp only [Except.map, Option.filter, ht, bind, Except.bind, Bool.not_false, if_true,
          pure, Except.pure, Except.ok.injEq, Option.some.injEq]
        constructor
        · rintro rfl
          exact ⟨rfl, by simpa using ht⟩
        · exact fun h => h.1

/-- Reads the items of a list that starts at an index, each with its place. -/
def readEach {α : Type} (place : Place) (read : Place → Value → Except Error α) (index : Nat) :
    List Value → Except Error (List α)
  | [] => .ok []
  | item :: items => do
    let first ← read (place.item index) item
    let others ← readEach place read (index + 1) items
    return first :: others

theorem readEach_eq_mapM {α : Type} (place : Place) (read : Place → Value → Except Error α)
    (index : Nat) (items : List Value) :
    readEach place read index items =
      (items.zipIdx index).mapM fun e => read (place.item e.2) e.1 := by
  induction items generalizing index with
  | nil => rfl
  | cons item items ih => simp [readEach, ih]

end ViewAdapters.Metadata
