import ViewAdapters.Calendar.Iso
import ViewAdapters.Text.Integer

/-!
# Cursors in YAML text

A position in the text of a document, with the line and column that the layout
rules refer to, and the steps that scanning is made of. Line ends are line
feeds and the three line separators of Unicode; carriage returns are turned
into line feeds before.
-/

namespace ViewAdapters.Yaml

/-- Why a scalar is not a value of its type. -/
inductive ScalarFault where
  | integer (base : Nat) (text : String)
  | integerTooLong (digits : Nat)
  | float (text : String)
  /-- A power of sixty beyond all floating-point numbers. -/
  | floatRange
  /-- A number without a character. -/
  | noNumber
  | truth (word : String)
  | moment
  /-- A moment that is no scalar by itself. -/
  | momentOfCollection
  | calendar (fault : Calendar.Fault)
  | offset (span : Calendar.Span)
  /-- An escape beyond the last code point. -/
  | codePoint
  /-- An escape beyond 31 bits. -/
  | codePointRange
  /-- A default value that leads back to itself. -/
  | endless
  deriving DecidableEq, Repr

/-- How much of a quoted text is shown that is no integer. -/
def maxShownInteger : Nat := 200

def ScalarFault.message : ScalarFault → String
  | .integer base text =>
    "invalid literal for int() with base " ++ toString base ++ ": " ++
      String.ofList ((Text.quoteChars text.toList).take maxShownInteger)
  | .integerTooLong digits =>
    "Exceeds the limit (" ++ toString Text.maxIntegerDigits ++
      " digits) for integer string conversion: value has " ++ toString digits ++
      " digits; use sys.set_int_max_str_digits() to increase the limit"
  | .float text => "could not convert string to float: " ++ Text.quoted text
  | .floatRange => "int too large to convert to float"
  | .noNumber => "string index out of range"
  | .truth word => Text.quoted word
  | .moment => "'NoneType' object has no attribute 'groupdict'"
  | .momentOfCollection => "expected string or bytes-like object, got 'list'"
  | .calendar fault => fault.message
  | .offset span => Calendar.offsetMessage span
  | .codePoint => "chr() arg not in range(0x110000)"
  | .codePointRange => "Python int too large to convert to C int"
  | .endless => "maximum recursion depth exceeded"

instance : ToString ScalarFault := ⟨ScalarFault.message⟩

/-- Why a text is no document. -/
inductive Fault where
  /-- The text breaks a rule of the format in a line, counted from 0. -/
  | malformed (complaint : String) (line : Nat)
  | scalar (fault : ScalarFault)
  deriving DecidableEq, Repr

def Fault.message : Fault → String
  | .malformed complaint line => complaint ++ " in line " ++ toString (line + 1)
  | .scalar fault => fault.message

/-- The end of a text reads as this character, which no text may hold. -/
def endMark : Char := '\x00'

/-- The mark of byte order, which takes no column. -/
def orderMark : Char := '\ufeff'

def isBreak (c : Char) : Bool := c == '\n' || c == '\x85' || c == '\u2028' || c == '\u2029'

def isBreakOrEnd (c : Char) : Bool := c == endMark || isBreak c

def isSpaceOrEnd (c : Char) : Bool := c == ' ' || isBreakOrEnd c

def isBlankOrEnd (c : Char) : Bool := c == '\t' || isSpaceOrEnd c

/-- Whether a document may hold a character. -/
def isAllowed (c : Char) : Bool :=
  let n := c.toNat
  n == 9 || n == 10 || n == 13 || (0x20 ≤ n && n ≤ 0x7E) || n == 0x85 ||
    (0xA0 ≤ n && n ≤ 0xD7FF) || (0xE000 ≤ n && n ≤ 0xFFFD) || (0x10000 ≤ n && n ≤ 0x10FFFF)

structure Cursor where
  rest : List Char
  index : Nat
  line : Nat
  column : Nat

namespace Cursor

def ofText (s : String) : Cursor := ⟨s.toList, 0, 0, 0⟩

/-- The cursor behind the next character. -/
def step (c : Cursor) : Cursor :=
  match c.rest with
  | [] => c
  | ch :: r =>
    if isBreak ch then ⟨r, c.index + 1, c.line + 1, 0⟩
    -- A mark and the character behind it are one character of the document.
    else if ch = Text.mark then { c with rest := r }
    else ⟨r, c.index + 1, c.line, if ch = orderMark then c.column else c.column + 1⟩

def advance (c : Cursor) : Nat → Cursor
  | 0 => c
  | n + 1 => c.step.advance n

end Cursor

/-- A step of scanning: it moves the cursor and may find a fault. -/
abbrev Scan := StateT Cursor (Except Fault)

namespace Scan

def fail {α : Type} (complaint : String) : Scan α := do
  throw (.malformed complaint (← get).line)

/-- The character at a distance from the cursor. -/
def ahead (n : Nat) : Scan Char := do return (← get).rest.getD n endMark

def next : Scan Char := ahead 0

def skip (n : Nat) : Scan Unit := modify (·.advance n)

def column : Scan Nat := do return (← get).column

/-- The characters up to the first one that is not of a class, and moves behind them. -/
def take (p : Char → Bool) : Scan (List Char) := do
  let run := (← get).rest.takeWhile p
  skip run.length
  return run

def skipSpaces : Scan Unit := do let _ ← take (· == ' ')

/-- Moves to the end of the line. -/
def skipToBreak : Scan Unit := do let _ ← take fun c => !isBreakOrEnd c

/-- Moves behind a line end, if one is next. All but two read as a line feed. -/
def lineBreak : Scan (List Char) := do
  let c ← next
  if c == '\n' || c == '\x85' then
    skip 1
    return ['\n']
  else if isBreak c then
    skip 1
    return [c]
  else return []

/-- Moves behind spaces and a comment to the next line; nothing else may stand there. -/
def restOfLine : Scan Unit := do
  skipSpaces
  if (← next) == '#' then skipToBreak
  if isBreakOrEnd (← next) then
    let _ ← lineBreak
  else fail "expected a comment or a line break"

/-- Whether three characters that end or start a document stand next. -/
def atMarker (marker : Char) : Scan Bool := do
  let rest := (← get).rest
  return rest.take 3 == [marker, marker, marker] && isBlankOrEnd (rest.getD 3 endMark)

def atDocumentMarker : Scan Bool := do return (← atMarker '-') || (← atMarker '.')

end Scan
end ViewAdapters.Yaml
