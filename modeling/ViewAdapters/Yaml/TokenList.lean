import ViewAdapters.Yaml.ScalarText

/-!
# Token lists of YAML

Turns the text of a document into its tokens. Indentation opens and closes
block collections, and a text that turns out to be a key by the colon behind it
gets its key token put in front of it afterwards.
-/

namespace ViewAdapters.Yaml

/-- A place where a key may have started without a mark of its own. -/
structure KeyCandidate where
  /-- How many tokens stand before the key. -/
  tokenCount : Nat
  /-- Whether nothing but a key can stand there. -/
  isRequired : Bool
  index : Nat
  line : Nat
  column : Nat

structure Layout where
  /-- How many flow collections are open. -/
  flowLevel : Nat
  /-- The column of the innermost block collection; -1 outside of all. -/
  indent : Int
  outerIndents : List Int
  /-- Whether a key without a mark may start here. -/
  allowsKey : Bool
  /-- The candidate of each flow level. -/
  candidates : List (Nat × KeyCandidate)
  /-- The tokens so far, last one first. -/
  tokens : List Token

namespace Layout

def start : Layout := ⟨0, -1, [], true, [], []⟩

/-- Puts a token in front of the last ones, so that `count` tokens stand before it. -/
def insert (l : Layout) (count : Nat) (t : Token) : Layout :=
  let later := l.tokens.length - count
  { l with tokens := l.tokens.take later ++ t :: l.tokens.drop later }

end Layout

/-- A step of scanning that may change the layout. -/
abbrev Lay := StateT Layout Scan

namespace Lay

def push (t : Token) : Lay Unit := modify fun l => { l with tokens := t :: l.tokens }

def allowKey (allowed : Bool) : Lay Unit := modify fun l => { l with allowsKey := allowed }

def inFlow : Lay Bool := do return (← get).flowLevel ≠ 0

/-- The farthest that a key may stand before its colon. -/
def maxKeyLength : Nat := 1024

def isStale (c : Cursor) (k : KeyCandidate) : Bool :=
  k.line ≠ c.line || maxKeyLength < c.index - k.index

/-- Drops the candidates that are too far away to be keys. -/
def dropStale : Lay Unit := do
  let c ← getThe Cursor
  let l ← get
  if l.candidates.any fun k => isStale c k.2 && k.2.isRequired then
    Scan.fail "expected a colon after a key"
  set { l with candidates := l.candidates.filter fun k => !isStale c k.2 }

/-- Gives up the candidate of the current flow level. -/
def dropCandidate : Lay Unit := do
  let l ← get
  match l.candidates.lookup l.flowLevel with
  | some k =>
    if k.isRequired then Scan.fail "expected a colon after a key"
    set { l with candidates := l.candidates.filter fun e => e.1 ≠ l.flowLevel }
  | none => return ()

/-- Notes that a key may start here. -/
def saveCandidate : Lay Unit := do
  let l ← get
  if l.allowsKey then
    dropCandidate
    let c ← getThe Cursor
    let k : KeyCandidate :=
      ⟨l.tokens.length, l.flowLevel = 0 && l.indent == c.column, c.index, c.line, c.column⟩
    modify fun l => { l with candidates := (l.flowLevel, k) :: l.candidates }

/-- Closes block collections until one is not deeper than a column. -/
def closeBlocks (column : Int) : List Int → Lay Unit
  | [] => return ()
  | outer :: outers => do
    if column < (← get).indent then
      modify fun l =>
        { l with indent := outer, outerIndents := outers, tokens := .blockEnd :: l.tokens }
      closeBlocks column outers

def unwind (column : Int) : Lay Unit := do
  let l ← get
  if l.flowLevel = 0 then closeBlocks column l.outerIndents

/-- Opens a block collection at a column, if it is deeper than the current one. -/
def indentTo (column : Nat) : Lay Bool := do
  let l ← get
  if l.indent < column then
    set { l with indent := column, outerIndents := l.indent :: l.outerIndents }
    return true
  else return false

/-- Moves behind spaces, comments and line ends. -/
def skipBetween : (fuel : Nat) → Lay Unit
  | 0 => return ()
  | fuel + 1 => do
    if (← getThe Cursor).index = 0 && (← Scan.next) == orderMark then Scan.skip 1
    Scan.skipSpaces
    if (← Scan.next) == '#' then Scan.skipToBreak
    if (← Scan.lineBreak).isEmpty then return ()
    if !(← inFlow) then allowKey true
    skipBetween fuel

/-- Ends all block collections before something that stands outside of them. -/
def leaveBlocks : Lay Unit := do
  unwind (-1)
  dropCandidate
  allowKey false

def documentMarker (t : Token) : Lay Unit := do
  leaveBlocks
  Scan.skip 3
  push t

def flowStart (t : Token) : Lay Unit := do
  saveCandidate
  modify fun l => { l with flowLevel := l.flowLevel + 1, allowsKey := true }
  Scan.skip 1
  push t

def flowEnd (t : Token) : Lay Unit := do
  dropCandidate
  if !(← inFlow) then Scan.fail "nothing to close"
  modify fun l => { l with flowLevel := l.flowLevel - 1, allowsKey := false }
  Scan.skip 1
  push t

def flowEntry : Lay Unit := do
  allowKey true
  dropCandidate
  Scan.skip 1
  push .flowEntry

/-- Opens a block collection for an indicator at the cursor, where one may stand. -/
def openBlock (opening : Token) : Lay Unit := do
  if !(← inFlow) then
    if !(← get).allowsKey then Scan.fail "a block collection cannot start here"
    if ← indentTo (← Scan.column) then push opening

def blockEntry : Lay Unit := do
  openBlock .blockSequenceStart
  allowKey true
  dropCandidate
  Scan.skip 1
  push .blockEntry

def markedKey : Lay Unit := do
  openBlock .blockMappingStart
  allowKey (!(← inFlow))
  dropCandidate
  Scan.skip 1
  push .key

/-- A colon: what it follows becomes a key if it can be one. -/
def value : Lay Unit := do
  let l ← get
  match l.candidates.lookup l.flowLevel with
  | some k =>
    modify fun l =>
      { l.insert k.tokenCount .key with
        candidates := l.candidates.filter fun e => e.1 ≠ l.flowLevel }
    if l.flowLevel = 0 then
      if ← indentTo k.column then modify fun l => l.insert k.tokenCount .blockMappingStart
    allowKey false
  | none =>
    openBlock .blockMappingStart
    allowKey (!(← inFlow))
    dropCandidate
  Scan.skip 1
  push .value

/-- Something that may be a key. -/
def content (scan : Scan Token) : Lay Unit := do
  saveCandidate
  allowKey false
  push (← scan)

def plainScalar : Lay Unit := do
  saveCandidate
  let l ← get
  let (text, hasBreak) ← Scan.plain (l.flowLevel ≠ 0) (l.indent + 1).toNat
  allowKey hasBreak
  push (.scalar text true)

def blockScalar (isFolded : Bool) : Lay Unit := do
  allowKey true
  dropCandidate
  push (.scalar (← Scan.block isFolded ((← get).indent + 1).toNat) false)

/-- The characters that have a meaning of their own at the start of a token. -/
def indicators : List Char := "-?:,[]\x7b\x7d#&*!|>'\"%@\x60".toList

/-- Whether a plain scalar can start with a character in front of another one. -/
def startsPlain (inFlow : Bool) (c after : Char) : Bool :=
  !(isBlankOrEnd c || indicators.contains c) ||
    (!isBlankOrEnd after && (c == '-' || (!inFlow && (c == '?' || c == ':'))))

/-- Scans the next token; false at the end of the text. -/
def token : Lay Bool := do
  skipBetween ((← getThe Cursor).rest.length + 1)
  dropStale
  unwind (← Scan.column)
  let c ← Scan.next
  let after ← Scan.ahead 1
  let isFlow ← inFlow
  let isFirst := (← Scan.column) = 0
  if c == endMark then
    leaveBlocks
    push .streamEnd
    return false
  if c == '%' && isFirst then
    leaveBlocks
    push (← Scan.directive)
  else if isFirst && (← Scan.atMarker '-') then documentMarker .documentStart
  else if isFirst && (← Scan.atMarker '.') then documentMarker .documentEnd
  else if c == '[' then flowStart .flowSequenceStart
  else if c == '\x7b' then flowStart .flowMappingStart
  else if c == ']' then flowEnd .flowSequenceEnd
  else if c == '\x7d' then flowEnd .flowMappingEnd
  else if c == ',' then flowEntry
  else if c == '-' && isBlankOrEnd after then blockEntry
  else if c == '?' && (isFlow || isBlankOrEnd after) then markedKey
  else if c == ':' && (isFlow || isBlankOrEnd after) then value
  else if c == '*' then content do return .alias (← Scan.anchorName)
  else if c == '&' then content do return .anchor (← Scan.anchorName)
  else if c == '!' then content Scan.tag
  else if c == '|' && !isFlow then blockScalar false
  else if c == '>' && !isFlow then blockScalar true
  else if c == '\'' then content do return .scalar (← Scan.quotedScalar false) false
  else if c == '"' then content do return .scalar (← Scan.quotedScalar true) false
  else if startsPlain isFlow c after then plainScalar
  else Scan.fail "unexpected character"
  return true

end Lay

/-- The tokens of a text up to the first fault in it. -/
structure Tokens where
  ready : List Token
  fault : Option Fault

namespace Tokens

/-- The tokens in front of which no key token can be put any more. -/
def settled (l : Layout) (c : Cursor) : List Token :=
  let pendingKeys := l.candidates.filter fun k => !Lay.isStale c k.2
  let count := pendingKeys.foldl (fun n k => min n k.2.tokenCount) l.tokens.length
  l.tokens.reverse.take count

/-- Scans tokens from a layout and a cursor on. -/
def scanFrom : (fuel : Nat) → Layout → Cursor → Tokens
  | 0, l, _ => ⟨l.tokens.reverse, none⟩
  | fuel + 1, l, c =>
    match (Lay.token.run l).run c with
    | .error fault => ⟨settled l c, some fault⟩
    | .ok ((isMore, l), c) => if isMore then scanFrom fuel l c else ⟨l.tokens.reverse, none⟩

/-- The tokens of a text, the end of the text last. -/
def ofText (s : String) : Tokens :=
  if s.toList.all isAllowed then scanFrom (s.toList.length + 1) .start (.ofText s)
  else ⟨[], some (.malformed "character that is not allowed" 0)⟩

end Tokens
end ViewAdapters.Yaml
