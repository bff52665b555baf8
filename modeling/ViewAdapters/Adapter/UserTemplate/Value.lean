import ViewAdapters.Text.Integer
import ViewAdapters.Text.Quoted

/-!
# Values of user templates

What a template can write: texts and numbers, choices, lists and records of
them. A record is written with the names of its fields, and some records have
attributes beside them.

* `Value.follow_append`: a path is followed step by step.
-/

namespace ViewAdapters.UserTemplate

open Text (Shown)

/-- The kind of a choice or a record, with the part of the program that defines it. -/
structure Kind where
  area : String
  name : String
  deriving DecidableEq, Repr

inductive Value where
  | null
  | truth (b : Bool)
  | integer (n : Int)
  | text (s : String)
  /-- A type, or something that stands in place of one, by its written form. -/
  | verbatim (literal : String)
  /-- One of the choices of a kind, by its text. -/
  | choice (kind : Kind) (text : String)
  | list (items : List Value)
  /-- A list that cannot grow. -/
  | row (items : List Value)
  /-- Values without an order of their own, of which none is there twice. -/
  | set (items : List Value)
  | record (kind : Kind) (fields derived : List (String × Value))
  deriving Repr

namespace Value

def ofOption {α : Type} (f : α → Value) : Option α → Value
  | none => .null
  | some a => f a

mutual

/-- A value as it is written inside another value. -/
def literal : Value → Shown String
  | .null => .ok "None"
  | .truth b => .ok (if b then "True" else "False")
  | .integer n => Text.numeral? n
  | .text s => .ok (Text.quoted s)
  | .verbatim s => .ok s
  | .choice kind s =>
    .ok ("<" ++ kind.name ++ "." ++ s.map Char.toUpper ++ ": " ++ Text.quoted s ++ ">")
  | .list items => do return "[" ++ ", ".intercalate (← literals items) ++ "]"
  | .row [item] => do return "(" ++ (← literal item) ++ ",)"
  | .row items => do return "(" ++ ", ".intercalate (← literals items) ++ ")"
  | .set [] => .ok "frozenset()"
  | .set (item :: items) => do
    let first ← literal item
    return "frozenset(\x7b" ++ ", ".intercalate (first :: (← literals items)) ++ "\x7d)"
  | .record kind fields _ => do
    return kind.name ++ "(" ++ ", ".intercalate (← fieldLiterals fields) ++ ")"

def literals : List Value → Shown (List String)
  | [] => .ok []
  | item :: items => do
    let first ← literal item
    return first :: (← literals items)

def fieldLiterals : List (String × Value) → Shown (List String)
  | [] => .ok []
  | (name, value) :: fields => do
    let first ← literal value
    return (name ++ "=" ++ first) :: (← fieldLiterals fields)

end

/-- A value as a template writes it: a text without quotes. -/
def display : Value → Shown String
  | .text s => .ok s
  | v => literal v

/-- What a message calls a value. -/
def kindText : Value → String
  | .null => "None"
  | .truth _ => "bool object"
  | .integer _ => "int object"
  | .text _ => "str object"
  | .verbatim _ => "type object"
  | .list _ => "list object"
  | .row _ => "tuple object"
  | .set _ => "frozenset object"
  | .choice kind _ | .record kind .. => kind.area ++ "." ++ kind.name ++ " object"

def attribute? : Value → String → Option Value
  | .record _ fields derived, name => (fields ++ derived).lookup name
  | _, _ => none

/-- The value that a path of attributes leads to, or else the value and the attribute that
it does not have. -/
def follow : Value → List String → Except (Value × String) Value
  | v, [] => .ok v
  | v, name :: rest =>
    match v.attribute? name with
    | some w => follow w rest
    | none => .error (v, name)

theorem follow_append (v : Value) (path more : List String) :
    v.follow (path ++ more) = v.follow path >>= fun w => w.follow more := by
  induction path generalizing v with
  | nil => rfl
  | cons name path ih =>
    cases h : v.attribute? name with
    | none => simp [follow, h, bind, Except.bind]
    | some w => simp [follow, h, ih]

end Value
end ViewAdapters.UserTemplate
