import ViewAdapters.Yaml.Cursor
import ViewAdapters.Text.Utf8

/-!
# Tokens of YAML

The tokens that a document consists of, and the scanning of those that stand
for themselves: names of anchors, tags and directives.
-/

namespace ViewAdapters.Yaml

inductive Directive where
  | version (major minor : Nat)
  | tag (handle front : String)
  /-- A directive without a meaning. -/
  | other
  deriving DecidableEq, Repr

inductive Token where
  | streamEnd
  | directive (d : Directive)
  | documentStart
  | documentEnd
  | blockSequenceStart
  | blockMappingStart
  | blockEnd
  | flowSequenceStart
  | flowSequenceEnd
  | flowMappingStart
  | flowMappingEnd
  | key
  | value
  | blockEntry
  | flowEntry
  | alias (name : String)
  | anchor (name : String)
  /-- A tag; without a handle it is written out in full. -/
  | tag (handle : Option String) (suffix : String)
  /-- A scalar; a plain one stands without quotes. -/
  | scalar (text : String) (isPlain : Bool)
  deriving DecidableEq, Repr

def isNameChar (c : Char) : Bool := c.isAlphanum || c == '-' || c == '_'

def isHexDigit (c : Char) : Bool :=
  c.isDigit || ('a' ≤ c && c ≤ 'f') || ('A' ≤ c && c ≤ 'F')

def hexDigitValue (c : Char) : Nat :=
  if c.isDigit then c.toNat - 48 else if c.toNat < 97 then c.toNat - 55 else c.toNat - 87

def hexValue (cs : List Char) : Nat := cs.foldl (fun n c => n * 16 + hexDigitValue c) 0

namespace Scan

/-- The name of an anchor or alias, whose mark is next. -/
def anchorName : Scan String := do
  skip 1
  let name ← take isNameChar
  if name.isEmpty then fail "expected a name"
  let c ← next
  if isBlankOrEnd c || "?:,]\x7d%@`".toList.contains c then return String.ofList name
  fail "unexpected character in a name"

/-- The bytes of escapes in a tag. -/
def escapedBytes : Nat → Scan (List UInt8)
  | 0 => return []
  | fuel + 1 => do
    if (← next) != '%' then return []
    let ds := ((← get).rest.drop 1).take 2
    if ds.length = 2 && ds.all isHexDigit then
      skip 3
      return (hexValue ds).toUInt8 :: (← escapedBytes fuel)
    else fail "expected two hexadecimal digits"

def isTagChar (c : Char) : Bool :=
  c.isAlphanum || "-;/?:@&=+$,_.!~*'()[]".toList.contains c

/-- The characters of a tag with its escapes resolved. -/
def tagCharsFrom : Nat → Scan (List Char)
  | 0 => return []
  | fuel + 1 => do
    let run ← take isTagChar
    if (← next) == '%' then
      let bytes ← escapedBytes (← get).rest.length
      match String.fromUTF8? ⟨bytes.toArray⟩ with
      | some s => return run ++ s.toList ++ (← tagCharsFrom fuel)
      | none => fail "the escapes of a tag are no text"
    else return run

def tagChars : Scan String := do
  let cs ← tagCharsFrom ((← get).rest.length + 1)
  if cs.isEmpty then fail "expected a tag"
  return String.ofList cs

/-- The handle of a tag between exclamation marks. -/
def tagHandle : Scan String := do
  if (← next) != '!' then fail "expected an exclamation mark"
  skip 1
  if (← next) == ' ' then return "!"
  let name ← take isNameChar
  if (← next) != '!' then fail "expected an exclamation mark"
  skip 1
  return "!" ++ String.ofList name ++ "!"

/-- Whether the tag at the cursor has a handle of its own: a second mark before a blank. -/
def hasHandle : Scan Bool := do
  let rest := (← get).rest.drop 1
  return (rest.dropWhile fun c => !isSpaceOrEnd c && c != '!').head? == some '!'

/-- A tag: in full between angle brackets, a mark alone, or a suffix after a handle. -/
def tag : Scan Token := do
  let c ← ahead 1
  let t ← if c == '<' then do
      skip 2
      let suffix ← tagChars
      if (← next) != '>' then fail "expected a closing bracket"
      skip 1
      pure (.tag none suffix)
    else if isBlankOrEnd c then do
      skip 1
      pure (.tag none "!")
    else if ← hasHandle then do
      let handle ← tagHandle
      pure (.tag (some handle) (← tagChars))
    else do
      skip 1
      pure (.tag (some "!") (← tagChars))
  if isSpaceOrEnd (← next) then return t
  fail "expected a space after a tag"

def digits : Scan Nat := do
  let ds ← take Char.isDigit
  if ds.isEmpty then fail "expected a digit"
  if Text.maxIntegerDigits < ds.length then throw (.scalar (.integerTooLong ds.length))
  return ds.foldl (fun n c => n * 10 + (c.toNat - 48)) 0

def versionDirective : Scan Directive := do
  skipSpaces
  let major ← digits
  if (← next) != '.' then fail "expected a point"
  skip 1
  let minor ← digits
  if isSpaceOrEnd (← next) then return .version major minor
  fail "expected a space"

def tagDirective : Scan Directive := do
  skipSpaces
  let handle ← tagHandle
  if (← next) != ' ' then fail "expected a space"
  skipSpaces
  let front ← tagChars
  if isSpaceOrEnd (← next) then return .tag handle front
  fail "expected a space"

/-- A directive and the rest of its line. -/
def directive : Scan Token := do
  skip 1
  let name ← take isNameChar
  if name.isEmpty then fail "expected the name of a directive"
  if !isSpaceOrEnd (← next) then fail "unexpected character in a directive"
  let d ← if name == "YAML".toList then versionDirective
    else if name == "TAG".toList then tagDirective
    else do
      skipToBreak
      pure .other
  restOfLine
  return .directive d

end Scan
end ViewAdapters.Yaml
