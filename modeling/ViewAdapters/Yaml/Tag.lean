/-!
# Tags of YAML

The types of nodes, and the types that plain scalars have by their text
according to YAML 1.1.
-/

namespace ViewAdapters.Yaml

inductive Tag where
  | null
  | bool
  | int
  | float
  | binary
  | timestamp
  | omap
  | pairs
  | set
  | str
  | seq
  | map
  | merge
  | value
  /-- A type that has no meaning here. -/
  | other (name : String)
  deriving DecidableEq, Repr

namespace Tag

/-- What stands in front of the names of the types. -/
def standardFront : String := "tag:yaml.org,2002:"

def names : List (String × Tag) :=
  [("null", .null), ("bool", .bool), ("int", .int), ("float", .float), ("binary", .binary),
    ("timestamp", .timestamp), ("omap", .omap), ("pairs", .pairs), ("set", .set), ("str", .str),
    ("seq", .seq), ("map", .map), ("merge", .merge), ("value", .value)]

def ofText (s : String) : Tag :=
  if standardFront.toList.isPrefixOf s.toList then
    (names.lookup (String.ofList (s.toList.drop standardFront.length))).getD (.other s)
  else .other s

/-! ## Forms of plain scalars -/

def isDigitOrLine (c : Char) : Bool := c.isDigit || c == '_'

def dropSign : List Char → List Char
  | '+' :: r => r
  | '-' :: r => r
  | r => r

/-- One or more groups of a colon and up to two digits below 60, and what follows them. -/
def dropSixties : List Char → Option (List Char)
  | ':' :: a :: b :: r =>
    if '0' ≤ a && a ≤ '5' && b.isDigit then some ((dropSixties r).getD r)
    else if a.isDigit then some ((dropSixties (b :: r)).getD (b :: r))
    else none
  | ':' :: a :: r => if a.isDigit then some ((dropSixties r).getD r) else none
  | _ => none

def startsNonZero (cs : List Char) : Bool := cs.head?.any fun c => '1' ≤ c && c ≤ '9'

/-- Binary, octal, decimal and hexadecimal integers, and those in base 60. -/
def isInteger (cs : List Char) : Bool :=
  let body := dropSign cs
  match body with
  | '0' :: 'b' :: r => !r.isEmpty && r.all fun c => c == '0' || c == '1' || c == '_'
  | '0' :: 'x' :: r => !r.isEmpty &&
      r.all fun c => isDigitOrLine c || ('a' ≤ c && c ≤ 'f') || ('A' ≤ c && c ≤ 'F')
  | '0' :: r => r.all fun c => ('0' ≤ c && c ≤ '7') || c == '_'
  | _ => startsNonZero body && (body.all isDigitOrLine ||
      dropSixties (body.dropWhile isDigitOrLine) == some [])

/-- An exponent with its sign, or nothing. -/
def isExponent : List Char → Bool
  | [] => true
  | e :: s :: r => (e == 'e' || e == 'E') && (s == '+' || s == '-') && !r.isEmpty &&
      r.all Char.isDigit
  | _ => false

def startsDigit (cs : List Char) : Bool := cs.head?.any Char.isDigit

/-- Digits with a point in or behind them and possibly an exponent. -/
def isPointNumber (cs : List Char) : Bool :=
  startsDigit cs &&
    match cs.dropWhile isDigitOrLine with
    | '.' :: r => isExponent (r.dropWhile isDigitOrLine)
    | _ => false

/-- A number in base 60 with a point. -/
def isSixtyNumber (cs : List Char) : Bool :=
  startsDigit cs &&
    match dropSixties (cs.dropWhile isDigitOrLine) with
    | some ('.' :: r) => r.all isDigitOrLine
    | _ => false

def isFraction : List Char → Bool
  | '.' :: r => startsDigit r && isExponent (r.dropWhile isDigitOrLine)
  | _ => false

def isFloat (cs : List Char) : Bool :=
  let body := dropSign cs
  isPointNumber body || isSixtyNumber body || isFraction cs ||
    [".inf", ".Inf", ".INF"].contains (String.ofList body) ||
    [".nan", ".NaN", ".NAN"].contains (String.ofList cs)

/-- Drops between `least` and `most` digits. -/
def dropDigits (least most : Nat) (cs : List Char) : Option (List Char) :=
  let n := min ((cs.takeWhile Char.isDigit).length) most
  if n < least then none else some (cs.drop n)

def dropChar (c : Char) : List Char → Option (List Char)
  | d :: r => if c = d then some r else none
  | [] => none

def isBlank (c : Char) : Bool := c == ' ' || c == '\t'

/-- A time zone at the end of a moment, or nothing. -/
def isZone (cs : List Char) : Bool :=
  if cs.isEmpty then true
  else
    match cs.dropWhile isBlank with
    | ['Z'] => true
    | s :: r => (s == '+' || s == '-') &&
        match dropDigits 1 2 r with
        | some [] => true
        | some (':' :: r) => dropDigits 2 2 r == some []
        | _ => false
    | [] => false

/-- The time of a moment and its zone. -/
def isTime (cs : List Char) : Bool :=
  let rest := do
    let r ← dropDigits 1 2 cs
    let r ← dropDigits 2 2 (← dropChar ':' r)
    dropDigits 2 2 (← dropChar ':' r)
  match rest with
  | some ('.' :: r) => isZone (r.dropWhile Char.isDigit)
  | some r => isZone r
  | none => false

/-- A date whose parts have the given least numbers of digits, and what follows it. -/
def dropDate (least : Nat) (cs : List Char) : Option (List Char) := do
  let r ← dropDigits 4 4 cs
  let r ← dropDigits least 2 (← dropChar '-' r)
  dropDigits least 2 (← dropChar '-' r)

/-- A date, or a moment with a time of day. -/
def isTimestamp (cs : List Char) : Bool :=
  dropDate 2 cs == some [] ||
    match dropDate 1 cs with
    | some (c :: r) =>
      if c == 'T' || c == 't' then isTime r
      else isBlank c && isTime (r.dropWhile isBlank)
    | _ => false

def truthWords : List String :=
  ["yes", "Yes", "YES", "no", "No", "NO", "true", "True", "TRUE", "false", "False", "FALSE",
    "on", "On", "ON", "off", "Off", "OFF"]

def nullWords : List String := ["~", "null", "Null", "NULL"]

/-- The indicators that have a type of their own, which is that of no value. -/
def indicatorWords : List String := ["!", "&", "*"]

/-- A text without one line feed at its end. -/
def withoutLineFeed (cs : List Char) : List Char :=
  if cs.getLast? = some '\n' then cs.dropLast else cs

/-- The type of a scalar by what stands before a line feed at its end. -/
def ofWord (word : String) : Tag :=
  if truthWords.contains word then .bool
  else if isFloat word.toList then .float
  else if isInteger word.toList then .int
  else if word = "<<" then .merge
  else if nullWords.contains word then .null
  else if isTimestamp word.toList then .timestamp
  else if word = "=" then .value
  else if indicatorWords.contains word then .other (standardFront ++ "yaml")
  else .str

/-- The type that a plain scalar has by its text. -/
def ofPlain (s : String) : Tag :=
  if s.isEmpty then .null else ofWord (String.ofList (withoutLineFeed s.toList))

end Tag
end ViewAdapters.Yaml
