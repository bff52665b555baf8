import ViewAdapters.Yaml.Token

/-!
# Scalars in YAML text

The four styles of scalars: plain, in single or double quotes, and blocks
whose lines are kept or folded. A scalar over several lines is joined by the
rules of its style.
-/

namespace ViewAdapters.Yaml

/-- What stands between two lines: a single line feed is a space, and of more line
ends the first one is dropped if it is a line feed. -/
def joinLines (first : List Char) (more : List Char) : List Char :=
  if first ≠ ['\n'] then first ++ more else if more.isEmpty then [' '] else more

/-- A scanned part of a scalar and whether line ends stand in it. -/
structure Gap where
  text : List Char
  hasBreak : Bool

namespace Scan

/-! ## Plain scalars -/

/-- How many characters of the text belong to a plain scalar before a blank or an indicator. -/
def plainLength (inFlow : Bool) : List Char → Nat
  | [] => 0
  | c :: r =>
    let after := r.headD endMark
    if isBlankOrEnd c then 0
    else if c == ':' &&
        (isBlankOrEnd after || (inFlow && ",[]\x7b\x7d".toList.contains after)) then 0
    else if inFlow && ",?[]\x7b\x7d".toList.contains c then 0
    else plainLength inFlow r + 1

/-- The line ends after the first one, with the indentation between them; `none` if a
marker of a document follows one of them. -/
def plainBreaks : Nat → Scan (Option (List Char))
  | 0 => return some []
  | fuel + 1 => do
    let c ← next
    if c == ' ' then
      skip 1
      plainBreaks fuel
    else if isBreak c then
      let first ← lineBreak
      if ← atDocumentMarker then return none
      return (← plainBreaks fuel).map (first ++ ·)
    else return some []

/-- The space behind a part of a plain scalar; an empty one ends the scalar. -/
def plainGap : Scan Gap := do
  let spaces ← take (· == ' ')
  if isBreak (← next) then
    let first ← lineBreak
    if ← atDocumentMarker then return ⟨[], true⟩
    match ← plainBreaks (← get).rest.length with
    | none => return ⟨[], true⟩
    | some more => return ⟨joinLines first more, true⟩
  else return ⟨spaces, false⟩

/-- The parts of a plain scalar that follow a gap, and whether a line end follows the last one. -/
def plainParts (inFlow : Bool) (indent : Nat) (gap : List Char) :
    (fuel : Nat) → Scan (List Char × Bool)
  | 0 => return ([], false)
  | fuel + 1 => do
    if (← next) == '#' then return ([], false)
    let n := plainLength inFlow (← get).rest
    if n = 0 then return ([], false)
    let part := (← get).rest.take n
    skip n
    let after ← plainGap
    let isLast := after.text.isEmpty || (← next) == '#' || (!inFlow && (← column) < indent)
    if isLast then return (gap ++ part, after.hasBreak)
    let (rest, hasBreak) ← plainParts inFlow indent after.text fuel
    return (gap ++ part ++ rest, if rest.isEmpty then after.hasBreak else hasBreak)

/-- A plain scalar, and whether it ends with a line end. -/
def plain (inFlow : Bool) (indent : Nat) : Scan (String × Bool) := do
  let (cs, hasBreak) ← plainParts inFlow indent [] (← get).rest.length
  return (String.ofList cs, hasBreak)

/-! ## Quoted scalars -/

/-- The characters that escapes of one letter stand for. -/
def simpleEscapes : List (Char × Char) :=
  [('0', '\x00'), ('a', '\x07'), ('b', '\x08'), ('t', '\t'), ('\t', '\t'), ('n', '\n'),
    ('v', '\x0b'), ('f', '\x0c'), ('r', '\r'), ('e', '\x1b'), (' ', ' '), ('"', '"'),
    ('\\', '\\'), ('/', '/'), ('N', '\x85'), ('_', '\xa0'), ('L', '\u2028'), ('P', '\u2029')]

/-- How many digits the escapes of code points have. -/
def codeEscapes : List (Char × Nat) := [('x', 2), ('u', 4), ('U', 8)]

/-- The code point of an escape with a number of digits, whose letter was read. -/
def escapedCode (count : Nat) : Scan Nat := do
  let ds := (← get).rest.take count
  if ds.length < count || !ds.all isHexDigit then fail "expected hexadecimal digits"
  skip count
  if 0x7FFFFFFF < hexValue ds then throw (.scalar .codePointRange)
  if 0x10FFFF < hexValue ds then throw (.scalar .codePoint)
  return hexValue ds

/-- The line ends in a quoted scalar after the first one; blanks around them do not count. -/
def quotedBreaks : Nat → Scan (List Char)
  | 0 => return []
  | fuel + 1 => do
    if ← atDocumentMarker then fail "unexpected document marker in a scalar"
    let _ ← take fun c => c == ' ' || c == '\t'
    if isBreak (← next) then
      let first ← lineBreak
      return first ++ (← quotedBreaks fuel)
    else return []

/-- Blanks or line ends in a quoted scalar. -/
def quotedGap : Scan (List Char) := do
  let spaces ← take fun c => c == ' ' || c == '\t'
  let c ← next
  if c == endMark then fail "unexpected end of the document in a scalar"
  else if isBreak c then
    let first ← lineBreak
    return joinLines first (← quotedBreaks ((← get).rest.length + 1))
  else return spaces

/-- What an escape in double quotes stands for; the backslash is next. -/
def escape : Scan (List Char) := do
  skip 1
  let c ← next
  match simpleEscapes.lookup c, codeEscapes.lookup c with
  | some d, _ =>
    skip 1
    return [d]
  | none, some count =>
    skip 1
    return Text.spell (← escapedCode count)
  | none, none =>
    if isBreak c then
      let _ ← lineBreak
      quotedBreaks ((← get).rest.length + 1)
    else fail "unknown escape"

def isQuotedPlain (c : Char) : Bool := c != '\'' && c != '"' && c != '\\' && !isBlankOrEnd c

/-- The characters of a quoted scalar up to its closing quote. -/
def quotedChars (isDouble : Bool) : (fuel : Nat) → Scan (List Char)
  | 0 => fail "unclosed scalar"
  | fuel + 1 => do
    let quote := if isDouble then '"' else '\''
    let run ← take isQuotedPlain
    let c ← next
    if c == quote then
      if !isDouble && (← ahead 1) == '\'' then
        skip 2
        return run ++ '\'' :: (← quotedChars isDouble fuel)
      else
        skip 1
        return run
    else if c == '\\' && isDouble then
      let escaped ← escape
      return run ++ escaped ++ (← quotedChars isDouble fuel)
    else if isBlankOrEnd c then
      let gap ← quotedGap
      return run ++ gap ++ (← quotedChars isDouble fuel)
    else
      skip 1
      return run ++ c :: (← quotedChars isDouble fuel)

/-- A quoted scalar, whose quote is next. -/
def quotedScalar (isDouble : Bool) : Scan String := do
  skip 1
  return String.ofList (← quotedChars isDouble ((← get).rest.length + 1))

/-! ## Blocks -/

/-- What becomes of the line ends at the end of a block. -/
inductive Chomping where
  | strip
  | clip
  | keep
  deriving DecidableEq, Repr

def chompingOf? (c : Char) : Option Chomping :=
  if c == '+' then some .keep else if c == '-' then some .strip else none

/-- A digit that gives the indentation of a block; zero is none. -/
def indentDigit : Scan (Option Nat) := do
  let c ← next
  if c.isDigit then
    if c == '0' then fail "the indentation of a block is not zero"
    skip 1
    return some (c.toNat - 48)
  else return none

def chompingMark : Scan (Option Chomping) := do
  match chompingOf? (← next) with
  | some chomping =>
    skip 1
    return some chomping
  | none => return none

/-- The marks of a block, in either order. -/
def blockMarks : Scan (Chomping × Option Nat) := do
  let marks ← match ← chompingMark with
    | some chomping => pure (chomping, ← indentDigit)
    | none => do
      match ← indentDigit with
      | some n => pure ((← chompingMark).getD .clip, some n)
      | none => pure (.clip, none)
  if isSpaceOrEnd (← next) then return marks
  fail "unexpected character after a block mark"

/-- Empty lines at the start of a block, and the column of the deepest space in them or
before the first line. -/
def blockStart (deepest : Nat) : (fuel : Nat) → Scan (List Char × Nat)
  | 0 => return ([], deepest)
  | fuel + 1 => do
    let c ← next
    if c == ' ' then
      skip 1
      blockStart (max deepest (← column)) fuel
    else if isBreak c then
      let first ← lineBreak
      let (more, deepest) ← blockStart deepest fuel
      return (first ++ more, deepest)
    else return ([], deepest)

/-- Moves through spaces up to a column. -/
def indentTo (indent : Nat) : Scan Unit := do
  let c ← get
  let spaces := (c.rest.takeWhile (· == ' ')).length
  skip (min spaces (indent - c.column))

/-- Empty lines in a block, up to the indentation of the next line. -/
def blockBreaks (indent : Nat) : (fuel : Nat) → Scan (List Char)
  | 0 => return []
  | fuel + 1 => do
    indentTo indent
    if isBreak (← next) then
      let first ← lineBreak
      return first ++ (← blockBreaks indent fuel)
    else return []

def atBlockLine (indent : Nat) : Scan Bool := do
  return (← column) == indent && (← next) != endMark

def isIndented (c : Char) : Bool := c == ' ' || c == '\t'

/-- What stands between two lines of a block. A folded block joins lines that start
without a blank. -/
def blockJoin (isFolded : Bool) (lineEnd breaks : List Char) (isPlainBefore isPlainAfter : Bool) :
    List Char :=
  if isFolded && lineEnd == ['\n'] && isPlainBefore && isPlainAfter then
    if breaks.isEmpty then [' '] else breaks
  else lineEnd ++ breaks

/-- The lines of a block from a line on: their text, the line end of the last one and the
empty lines behind it. -/
def blockLines (isFolded : Bool) (indent : Nat) :
    (fuel : Nat) → Scan (List Char × List Char × List Char)
  | 0 => return ([], [], [])
  | fuel + 1 => do
    let isPlainBefore := !isIndented (← next)
    let text ← take fun c => !isBreakOrEnd c
    let lineEnd ← lineBreak
    let breaks ← blockBreaks indent ((← get).rest.length + 1)
    if ← atBlockLine indent then
      let gap := blockJoin isFolded lineEnd breaks isPlainBefore (!isIndented (← next))
      let (more, lastEnd, lastBreaks) ← blockLines isFolded indent fuel
      return (text ++ gap ++ more, lastEnd, lastBreaks)
    else return (text, lineEnd, breaks)

def chomp (chomping : Chomping) (lineEnd breaks : List Char) : List Char :=
  match chomping with
  | .strip => []
  | .clip => lineEnd
  | .keep => lineEnd ++ breaks

/-- A block, whose mark is next, in a collection that is indented by some columns. -/
def block (isFolded : Bool) (least : Nat) : Scan String := do
  skip 1
  let (chomping, given) ← blockMarks
  restOfLine
  let least := max least 1
  let fuel := (← get).rest.length + 1
  let (breaks, indent) ← match given with
    | some n => do pure (← blockBreaks (least + n - 1) fuel, least + n - 1)
    | none => do
      let (breaks, deepest) ← blockStart 0 fuel
      pure (breaks, max least deepest)
  if ← atBlockLine indent then
    let (text, lineEnd, last) ← blockLines isFolded indent fuel
    return String.ofList (breaks ++ text ++ chomp chomping lineEnd last)
  else return String.ofList (chomp chomping [] breaks)

end Scan
end ViewAdapters.Yaml
