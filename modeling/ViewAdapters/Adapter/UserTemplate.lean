import ViewAdapters.Adapter.Kotlin
import ViewAdapters.Adapter.Swift
import ViewAdapters.Adapter.UserTemplate.Context
import ViewAdapters.Text.Utf8
import ViewAdapters.Text.WordChars

/-!
# User templates

A user can replace the text of an adapter, or its header alone, by a template
of that name. The templates here are the simple ones: literal text with values
in double braces and with other templates included on lines of their own.

* `render_standard`: without user templates an adapter is its header and its lines.
-/

namespace ViewAdapters.UserTemplate

inductive Piece where
  | literal (text : List Char)
  /-- A value by the names that lead to it. -/
  | value (path : List String)
  /-- Another template by its name. -/
  | part (name : String)
  deriving DecidableEq, Repr

/-- Why a template cannot be rendered. -/
inductive Fault where
  | undefined (name : String)
  /-- A value, by what messages call it, does not have an attribute. -/
  | noAttribute (kind name : String)
  | missing (name : String)
  | endless (name : String)
  | emptyTag
  /-- Something stands where an expression is to start. -/
  | unexpected (token : String)
  | malformed
  | numeral (fault : Text.NumeralFault)
  | undecodable (fault : Text.Utf8Fault)
  deriving DecidableEq, Repr

/-- What messages call the end of a tag for a value. -/
def tagEnd : String := "end of print statement"

def Fault.message : Fault → String
  | .undefined name => "'" ++ name ++ "' is undefined"
  | .noAttribute kind name => "'" ++ kind ++ "' has no attribute '" ++ name ++ "'"
  | .missing name => name
  | .endless name => name ++ " includes itself"
  | .emptyTag => "Expected an expression, got '" ++ tagEnd ++ "'"
  | .unexpected token => "unexpected '" ++ token ++ "'"
  | .malformed => "malformed tag"
  | .numeral fault => fault.message
  | .undecodable fault => fault.message

instance : ToString Fault := ⟨Fault.message⟩

/-- The parts of a text between dots, without the blanks around them. -/
def splitDots (current : List Char) : List Char → List (List Char)
  | [] => [Text.trimChars current.reverse]
  | c :: r =>
    if c = '.' then Text.trimChars current.reverse :: splitDots [] r
    else splitDots (c :: current) r

/-- Whether word characters form a name: a digit does not start one. -/
def isName : List Char → Bool
  | [] => false
  | c :: r => (Text.digitValue? c).isNone && (c :: r).all Text.isWordChar

/-- The word that negates the expression behind it, so that it is no name of a value. -/
def negation : List Char := "not".toList

/-- The piece of a tag for a value. -/
def valuePiece (inside : List Char) : Except Fault Piece :=
  let path := splitDots [] inside
  if inside.all Text.isBlank then .error .emptyTag
  else if !path.all isName then .error .malformed
  else if path = [negation] then .error (.unexpected tagEnd)
  else if path.head? = some negation then .error (.unexpected ".")
  else .ok (.value (path.map String.ofList))

/-- The word of a tag that includes a template. -/
def partWord : List Char := "include".toList

/-- The piece of a tag that includes a template by its quoted name. -/
def partPiece (inside : List Char) : Except Fault Piece :=
  let inside := Text.trimChars inside
  if partWord.isPrefixOf inside then
    match Text.trimStartChars (inside.drop partWord.length) with
    | quote :: r =>
      if (quote = '"' || quote = '\'') && r.getLast? = some quote && !r.dropLast.contains quote then
        .ok (.part (String.ofList r.dropLast))
      else .error .malformed
    | [] => .error .malformed
  else .error .malformed

/-- The literal text in front of an including tag, whose line loses its indentation:
`before` is the text reversed, and `isLineStart` tells whether it starts a line. -/
def withoutIndentation (isLineStart : Bool) (before : List Char) : List Char :=
  let rest := before.dropWhile fun c => Text.isBlank c && c ≠ '\n'
  if rest.head?.elim isLineStart (· = '\n') then rest else before

def literalPiece (before : List Char) : List Piece :=
  if before.isEmpty then [] else [.literal before.reverse]

/-- What is being read: text, a tag for a value or a tag for a template, with what was
read of it reversed, and for text whether it starts a line. -/
inductive Mode where
  | text (isLineStart : Bool) (before : List Char)
  | value (inside : List Char)
  | part (inside : List Char)

/-- The pieces of a template. The line end after an including tag belongs to the tag. -/
def pieces : Mode → List Char → Except Fault (List Piece)
  | .text _ before, [] => .ok (literalPiece before)
  | .text _ before, '\x7b' :: '\x7b' :: r => do
    return literalPiece before ++ (← pieces (.value []) r)
  | .text isLineStart before, '\x7b' :: '%' :: r => do
    return literalPiece (withoutIndentation isLineStart before) ++ (← pieces (.part []) r)
  | .text isLineStart before, c :: r => pieces (.text isLineStart (c :: before)) r
  | .value inside, '\x7d' :: '\x7d' :: r => do
    return (← valuePiece inside.reverse) :: (← pieces (.text false []) r)
  | .part inside, '%' :: '\x7d' :: '\n' :: r => do
    return (← partPiece inside.reverse) :: (← pieces (.text true []) r)
  | .part inside, '%' :: '\x7d' :: r => do
    return (← partPiece inside.reverse) :: (← pieces (.text false []) r)
  | .value inside, c :: r => pieces (.value (c :: inside)) r
  | .part inside, c :: r => pieces (.part (c :: inside)) r
  | .value _, [] | .part _, [] => .error .malformed

def parse (s : String) : Except Fault (List Piece) :=
  pieces (.text true []) (Text.unifyLineEnds s.toList)

/-- The text of the value that a path leads to in the template of a name. -/
def lookUp (c : Content) (template : String) : List String → Except Fault String
  | [] => .error .malformed
  | name :: path =>
    match (context c template).lookup name with
    | none => .error (.undefined name)
    | some v =>
      match v.follow path with
      | .error (w, step) => .error (.noAttribute w.kindText step)
      | .ok w => w.display.mapError .numeral

/-- User templates by name, as far as their files hold text. -/
abbrev Templates := List (String × Except Text.Utf8Fault String)

def headerName : String := "_header.j2"

/-- The name of the template of a platform's adapters. -/
def adapterTemplateName : Platform → String
  | .android => "android_adapter.kt.j2"
  | .ios => "ios_adapter.swift.j2"

/-- The lines of an adapter after its header. -/
def bodyLines (platform : Platform) (c : Content) : List String :=
  match platform with
  | .android => Kotlin.lines c
  | .ios => Swift.lines c

/-- Renders pieces in order, given the texts of values and of included templates. -/
def renderPieces (valueText : List String → Except Fault String)
    (partText : String → Except Fault String) : List Piece → Except Fault String
  | [] => .ok ""
  | .literal text :: rest => do
    return String.ofList text ++ (← renderPieces valueText partText rest)
  | .value path :: rest => do
    let text ← valueText path
    return text ++ (← renderPieces valueText partText rest)
  | .part name :: rest => do
    let text ← partText name
    return text ++ (← renderPieces valueText partText rest)

/-- Renders the template of a name: the user's, or else the standard one. A chain of
`depth` inclusions is followed. -/
def renderNamed (templates : Templates) (c : Content) : (depth : Nat) → String → Except Fault String
  | 0, name => .error (.endless name)
  | depth + 1, name =>
    match templates.lookup name with
    | some (.error fault) => .error (.undecodable fault)
    | some (.ok s) => do
      renderPieces (lookUp c name) (renderNamed templates c depth) (← parse s)
    | none =>
      if name = headerName then .ok (Header.text c)
      else
        match Platform.all.find? fun p => adapterTemplateName p == name with
        | some platform => do
          return (← renderNamed templates c depth headerName) ++ textOfLines (bodyLines platform c)
        | none => .error (.missing name)

/-- Renders an adapter. A chain of inclusions that is longer than there are templates
repeats one. -/
def render (templates : Templates) (c : Content) : Except Fault String :=
  renderNamed templates c (templates.length + 3) (adapterTemplateName c.platform)

theorem render_standard (c : Content) :
    render [] c = .ok (Header.text c ++ textOfLines (bodyLines c.platform c)) := by
  cases hp : c.platform <;> simp [render, renderNamed, hp] <;> rfl

end ViewAdapters.UserTemplate
