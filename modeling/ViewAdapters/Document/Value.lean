import ViewAdapters.Calendar.UtcSecond
import ViewAdapters.Decimal.Shortest
import ViewAdapters.Text.Integer
import ViewAdapters.Text.Quoted

/-!
# Values of decoded documents

What a YAML or JSON document decodes to, and the text that messages show of a
value. A collection that holds itself is written with a number for itself, and
is laid open one level at a time.
-/

namespace ViewAdapters.Document

open Text (Shown)

inductive Value where
  | null
  | bool (b : Bool)
  | int (n : Int)
  | float (x : Binary64)
  | text (s : String)
  | date (d : Calendar.Date)
  | moment (t : Calendar.DateTime)
  | bytes (bs : List UInt8)
  | pair (first second : Value)
  | list (items : List Value)
  | set (items : List Value)
  | mapping (entries : List (Value × Value))
  /-- A collection that holds itself: inside of it `again` with its number stands for it. -/
  | cyclic (id : Nat) (body : Value)
  /-- The collection with this number, which the value stands in. -/
  | again (id : Nat)
  deriving Repr

/-- The entries of a mapping in the order of their first insertion. -/
abbrev Entries := List (Value × Value)

namespace Value

/-! ## Collections that hold themselves -/

mutual

/-- The value with a whole collection in place of what stands for it. -/
def replace (id : Nat) (whole : Value) : Value → Value
  | .again other => if other = id then whole else .again other
  | .cyclic other body =>
    .cyclic other (if other = id then body else replace id whole body)
  | .pair a b => .pair (replace id whole a) (replace id whole b)
  | .list items => .list (replaceAll id whole items)
  | .mapping entries => .mapping (replaceEntries id whole entries)
  | .null => .null
  | .bool b => .bool b
  | .int n => .int n
  | .float x => .float x
  | .text s => .text s
  | .date d => .date d
  | .moment t => .moment t
  | .bytes bs => .bytes bs
  | .set items => .set items

def replaceAll (id : Nat) (whole : Value) : List Value → List Value
  | [] => []
  | item :: items => replace id whole item :: replaceAll id whole items

def replaceEntries (id : Nat) (whole : Value) : Entries → Entries
  | [] => []
  | (key, value) :: entries =>
    (key, replace id whole value) :: replaceEntries id whole entries

end

/-- The value with its outermost collection laid open. -/
def unrolled : Value → Value
  | .cyclic id body => replace id (.cyclic id body) body
  | v => v

/-! ## Texts of values -/

/-- What stands for a collection inside of itself. -/
def ellipsis : Value → String
  | .list _ => "[...]"
  | .mapping _ => "\x7b...\x7d"
  | _ => "..."

/-- How deep collections may be nested in what is written, and the fault of those that are nested
deeper. Without a room there is no such fault. -/
abbrev Room (ε : Type) := Option (Nat × ε)

/-- The room inside of a collection. -/
def Room.inside {ε : Type} (room : Room ε) : Room ε := room.map fun r => (r.1 - 1, r.2)

section Literals

variable {ε : Type} (noText : Text.NumeralFault → ε)

mutual

/-- A value as it is written inside another value; `outer` are the collections that hold
themselves and that it stands in, with what stands for them, and `noText` is what an integer
without a text is refused for. -/
def literalIn (outer : List (Nat × String)) (room : Room ε) (v : Value) : Except ε String :=
  match room with
  | some (0, fault) => .error fault
  | _ =>
    match v with
    | .null => .ok "None"
    | .bool b => .ok (if b then "True" else "False")
    | .int n => (Text.numeral? n).mapError noText
    | .float x => .ok x.text
    | .text s => .ok (Text.quoted s)
    | .date d => .ok d.literal
    | .moment t => .ok t.literal
    | .bytes bs => .ok (Text.quotedBytes bs)
    | .pair a b => do
      return "(" ++ (← literalIn outer room.inside a) ++ ", " ++
        (← literalIn outer room.inside b) ++ ")"
    | .list items => do return "[" ++ ", ".intercalate (← literals outer room.inside items) ++ "]"
    | .set [] => .ok "set()"
    | .set (item :: items) => do
      let first ← literalIn outer room.inside item
      return "\x7b" ++ ", ".intercalate (first :: (← literals outer room.inside items)) ++ "\x7d"
    | .mapping entries => do
      return "\x7b" ++ ", ".intercalate (← entryLiterals outer room.inside entries) ++ "\x7d"
    | .cyclic id body =>
      match outer.lookup id with
      | some mark => .ok mark
      | none => literalIn ((id, body.ellipsis) :: outer) room body
    | .again id => .ok ((outer.lookup id).getD "...")

def literals (outer : List (Nat × String)) (room : Room ε) :
    List Value → Except ε (List String)
  | [] => .ok []
  | item :: items => do
    let first ← literalIn outer room item
    return first :: (← literals outer room items)

def entryLiterals (outer : List (Nat × String)) (room : Room ε) :
    Entries → Except ε (List String)
  | [] => .ok []
  | (key, value) :: entries => do
    let first ← literalIn outer room key
    let second ← literalIn outer room value
    return (first ++ ": " ++ second) :: (← entryLiterals outer room entries)

end

/-- A value as it is shown on its own: a text and a date without their marks. -/
def displayIn (room : Room ε) : Value → Except ε String
  | .text s => .ok s
  | .date d => .ok d.text
  | .moment t => .ok t.text
  | v => literalIn noText [] room v

end Literals

/-- A value as it is shown on its own, however deep its collections are nested. -/
def display (v : Value) : Shown String := displayIn id none v

/-- Why a value is not shown. -/
inductive DisplayFault where
  | numeral (fault : Text.NumeralFault)
  | tooDeep
  deriving DecidableEq, Repr

/-- A value as it is shown on its own, if its collections are nested no deeper than a bound. -/
def displayWithin (bound : Option Nat) (v : Value) : Except DisplayFault String :=
  displayIn .numeral (bound.map fun n => (n, .tooDeep)) v

/-- The text of a text or a number. -/
def asText : Value → Shown (Option String)
  | .text s => .ok (some s)
  | .int n => (Text.numeral? n).map some
  | .float x => .ok (some x.text)
  | _ => .ok none

/-- An integer, or a text that denotes one. -/
def asInteger : Value → Option Int
  | .int n => some n
  | .text s => Text.readInteger? s
  | _ => none

/-- Whether a value counts as nothing: null, false, zero and what is empty. -/
def isVoid : Value → Bool
  | .null => true
  | .bool b => !b
  | .int n => n == 0
  | .float x => x.isZero
  | .text s => s.isEmpty
  | .bytes bs => bs.isEmpty
  | .list items => items.isEmpty
  | .set items => items.isEmpty
  | .mapping entries => entries.isEmpty
  | .date _ | .moment _ | .pair _ _ | .cyclic _ _ | .again _ => false

/-- The number that a value stands for as a key, where truth values count as 0 and 1. -/
def keyNumber? : Value → Option Int
  | .bool b => some (if b then 1 else 0)
  | .int n => some n
  | .float x => x.toInt?
  | _ => none

/-- Two moments are one key if both or neither have an offset and they are the same instant. -/
def sameMoment (s t : Calendar.DateTime) : Bool :=
  s.offset.isSome == t.offset.isSome && s.sinceEpoch == t.sinceEpoch

/-- Whether two values are the same key of a mapping. -/
def sameKey : Value → Value → Bool
  | .null, .null => true
  | .text s, .text t => s == t
  | .date d, .date e => d == e
  | .moment s, .moment t => sameMoment s t
  | .bytes bs, .bytes cs => bs == cs
  | .pair a b, .pair c d => sameKey a c && sameKey b d
  | .float x, .float y => x.sameNumber y
  | v, w =>
    match keyNumber? v, keyNumber? w with
    | some m, some n => m == n
    | _, _ => false

/-- Sets a key: a key that is there keeps its place and its spelling. -/
def insert (entries : Entries) (key value : Value) : Entries :=
  match entries with
  | [] => [(key, value)]
  | e :: r => if sameKey e.1 key then (e.1, value) :: r else e :: insert r key value

def isText (name : String) : Value → Bool
  | .text s => s == name
  | _ => false

/-- The value under a text key; null if there is none. -/
def field (entries : Entries) (name : String) : Value :=
  match entries.find? fun e => isText name e.1 with
  | some e => e.2
  | none => .null

end Value
end ViewAdapters.Document
