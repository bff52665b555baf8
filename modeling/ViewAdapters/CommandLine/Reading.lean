import ViewAdapters.CommandLine.Argument
import ViewAdapters.Text.Integer

/-!
# Readings

The arguments of a level in order: the switches with their values, the operand
and what belongs to nothing. The operand of the program itself is a command,
which takes all arguments behind it.
-/

namespace ViewAdapters.CommandLine

/-- Why a command line asks for nothing to be done. -/
inductive Stop where
  | help (level : Level)
  | fault (level : Level) (fault : Fault)
  deriving DecidableEq, Repr

/-- How a cluster of switches in one argument ends. -/
inductive ClusterEnd where
  | plain
  | value (s : Switch) (text : String)
  /-- The value of the last switch is the next argument. -/
  | valueNext (s : Switch)
  deriving DecidableEq, Repr

/-- The switches without values in one argument and how it ends. A short switch without a
value can only be followed by more short ones. -/
def expand (l : Level) (flags : List Switch) (s : Switch) (isShort : Bool) :
    Option (List Char) → Except Fault (List Switch × ClusterEnd)
  | none => .ok (if s.takesValue then (flags, .valueNext s) else (flags ++ [s], .plain))
  | some [] =>
    if s.takesValue then .ok (flags, .value s "") else .error (.ignoredValue s "")
  | some (c :: rest) =>
    if s.takesValue then .ok (flags, .value s (String.ofList (c :: rest)))
    else
      match if isShort then l.switch? (String.ofList ['-', c]) else none with
      | none => .error (.ignoredValue s (String.ofList (c :: rest)))
      | some next =>
        match rest with
        | [] => expand l (flags ++ [s]) next true none
        | d :: rest => expand l (flags ++ [s]) next true (some (d :: rest))
termination_by attached => attached.elim 0 fun cs => cs.length + 1

/-- What was read so far. -/
structure Reading where
  /-- The switches in order, with the values of those that take one. -/
  settings : List (Switch × String)
  operand : Option String
  /-- The arguments of the command that is the operand. -/
  rest : List String
  unknown : List String

namespace Reading

def empty : Reading := ⟨[], none, [], []⟩

def addUnknown (r : Reading) (text : String) : Reading :=
  { r with unknown := r.unknown ++ [text] }

/-- The values that a switch was given, in order. -/
def values (r : Reading) (s : Switch) : List String :=
  (r.settings.filter fun e => e.1 = s).map Prod.snd

def has (r : Reading) (s : Switch) : Bool := r.settings.any fun e => e.1 = s

/-- The last value of a switch. An empty one counts as none. -/
def value? (r : Reading) (s : Switch) : Option String :=
  (r.values s).getLast?.filter fun t => !t.isEmpty

/-- Adds a switch without a value. Asking for help ends everything. -/
def addFlag (l : Level) (r : Reading) (s : Switch) : Except Stop Reading :=
  if s = .help then .error (.help l)
  else .ok { r with settings := r.settings ++ [(s, "")] }

/-- Adds a switch with a value, which must be an integer for the number of workers. -/
def addValue (l : Level) (r : Reading) (s : Switch) (text : String) : Except Stop Reading :=
  if s = .workers && (Text.readInteger? text).isNone then .error (.fault l (.badWorkers text))
  else .ok { r with settings := r.settings ++ [(s, text)] }

/-- Adds a switch with an attached value. Two dashes are no value but an empty list of
values, which is false where it is tested and names no platform. -/
def addAttached (l : Level) (r : Reading) (s : Switch) (text : String) : Except Stop Reading :=
  if text = "--" then
    .ok { r with settings := r.settings ++ [(s, if s = .platform then "[]" else "")] }
  else r.addValue l s text

/-- Adds what a cluster holds, but for a value in the next argument. -/
def addCluster (l : Level) (r : Reading) (flags : List Switch) (ending : ClusterEnd) :
    Except Stop Reading := do
  let r ← flags.foldlM (addFlag l) r
  match ending with
  | .value s text => r.addAttached l s text
  | _ => return r

end Reading

/-- Reads classified arguments in order. -/
def readAll (l : Level) (r : Reading) : List (String × Argument) → Except Stop Reading
  | [] => .ok r
  | (text, .unknown) :: rest => readAll l (r.addUnknown text) rest
  | (_, .switch s isShort attached) :: rest => do
    match ← (expand l [] s isShort attached).mapError (.fault l) with
    | (flags, .valueNext s) =>
      match rest with
      | (value, .word) :: rest => do
        let r ← r.addCluster l flags .plain
        readAll l (← r.addValue l s value) rest
      | _ => throw (.fault l (.missingValue s))
    | (flags, ending) => readAll l (← r.addCluster l flags ending) rest
  | (text, .word) :: rest =>
    match r.operand, l with
    | some _, _ => readAll l (r.addUnknown text) rest
    | none, .program => .ok { r with operand := some text, rest := rest.map Prod.fst }
    | none, .command _ =>
      match rest with
      | (_, .dashes) :: rest => readAll l { r with operand := some text } rest
      | rest => readAll l { r with operand := some text } rest
  | (text, .dashes) :: rest =>
    match r.operand, l, rest with
    | none, .program, _ :: _ =>
      .ok { r with operand := some text, rest := rest.map Prod.fst }
    | none, .command _, (word, _) :: rest => readAll l { r with operand := some word } rest
    | _, _, rest => readAll l (r.addUnknown text) rest

/-- Reads the arguments of a level, which needs its operand. -/
def readLevel (l : Level) (texts : List String) : Except Stop (Reading × String) := do
  let args ← (argumentsOf l texts).mapError (.fault l)
  let r ← readAll l .empty args
  match r.operand with
  | some operand => return (r, operand)
  | none => throw (.fault l (.missing l.operandName))

end ViewAdapters.CommandLine
