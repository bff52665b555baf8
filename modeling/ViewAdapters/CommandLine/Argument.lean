import ViewAdapters.CommandLine.Switch
import ViewAdapters.Text.DecimalDigits
import ViewAdapters.Text.Quoted

/-!
# Arguments

What each argument of a command line is: a word, a switch with or without a
value attached to it, or something that looks like a switch but is none. A
switch with two dashes can be abbreviated, and behind two lone dashes there are
words only.
-/

namespace ViewAdapters.CommandLine

/-- What is wrong with a command line. -/
inductive Fault where
  | ambiguous (text : String) (names : List String)
  | ignoredValue (s : Switch) (value : String)
  | missingValue (s : Switch)
  | badWorkers (text : String)
  | badCommand (text : String)
  | missing (operand : String)
  | unknown (texts : List String)
  | badTimestamp (text : String)
  deriving DecidableEq, Repr

def Fault.message : Fault → String
  | .ambiguous text names =>
    "ambiguous option: " ++ text ++ " could match " ++ ", ".intercalate names
  | .ignoredValue s value =>
    "argument " ++ s.label ++ ": ignored explicit argument " ++ Text.quoted value
  | .missingValue s => "argument " ++ s.label ++ ": expected one argument"
  | .badWorkers text =>
    "argument " ++ Switch.workers.label ++ ": invalid int value: " ++ Text.quoted text
  | .badCommand text =>
    "argument " ++ Level.program.operandName ++ ": invalid choice: " ++ Text.quoted text ++
      " (choose from " ++
      ", ".intercalate (Command.all.map fun c => Text.quoted c.name) ++ ")"
  | .missing operand => "the following arguments are required: " ++ operand
  | .unknown texts => "unrecognized arguments: " ++ " ".intercalate texts
  | .badTimestamp text => "invalid --timestamp value: " ++ text

inductive Argument where
  | word
  /-- Two dashes on their own. -/
  | dashes
  /-- A switch and the text that follows its name in the same argument, if there is one. -/
  | switch (s : Switch) (isShort : Bool) (attached : Option (List Char))
  | unknown
  deriving DecidableEq, Repr

/-- A text up to its first equals sign, and what follows it. -/
def splitAssigned : List Char → List Char × Option (List Char)
  | [] => ([], none)
  | c :: r =>
    if c = '=' then ([], some r)
    else
      let (name, value) := splitAssigned r
      (c :: name, value)

/-- Whether a text is a negative number in digits, possibly with a line end behind it. -/
def isNegativeNumber : List Char → Bool
  | '-' :: r =>
    let body := if r.getLast? = some '\n' then r.dropLast else r
    let isDigit (c : Char) : Bool := (Text.digitValue? c).isSome
    match body.dropWhile isDigit with
    | [] => !body.isEmpty
    | '.' :: fraction => !fraction.isEmpty && fraction.all isDigit
    | _ => false
  | _ => false

/-- The switches that a text can be an abbreviation of, or whose short name starts it. -/
def candidates (l : Level) (cs : List Char) : List (String × Argument) :=
  match cs with
  | '-' :: '-' :: _ =>
    let (front, value) := splitAssigned cs
    (l.namedSwitches.filter fun e => front.isPrefixOf e.1.toList).map fun e =>
      (e.1, .switch e.2 false value)
  | a :: b :: rest =>
    (l.namedSwitches.filter fun e => e.1.toList = [a, b]).map fun e =>
      (e.1, .switch e.2 true (some rest))
  | _ => []

/-- What a text is that starts with a dash but is no name of a switch. -/
def classifyOther (l : Level) (s : String) : Except Fault Argument :=
  match candidates l s.toList with
  | [] => .ok (if isNegativeNumber s.toList || s.contains ' ' then .word else .unknown)
  | [(_, argument)] => .ok argument
  | several => .error (.ambiguous s (several.map Prod.fst))

def isShort (name : List Char) : Bool := name.length == 2

/-- What a text is that starts with a dash. -/
def classifyDashed (l : Level) (s : String) : Except Fault Argument :=
  match l.switch? s with
  | some switch => .ok (.switch switch (isShort s.toList) none)
  | none =>
    if s.length = 1 then .ok .word
    else
      match splitAssigned s.toList with
      | (name, some value) =>
        match l.switch? (String.ofList name) with
        | some switch => .ok (.switch switch (isShort name) (some value))
        | none => classifyOther l s
      | (_, none) => classifyOther l s

def classify (l : Level) (s : String) : Except Fault Argument :=
  if s.toList.head? = some '-' then classifyDashed l s else .ok .word

/-- The arguments with what they are. -/
def argumentsOf (l : Level) : List String → Except Fault (List (String × Argument))
  | [] => .ok []
  | s :: rest =>
    if s = "--" then .ok ((s, .dashes) :: rest.map fun t => (t, .word))
    else do
      let argument ← classify l s
      return (s, argument) :: (← argumentsOf l rest)

end ViewAdapters.CommandLine
