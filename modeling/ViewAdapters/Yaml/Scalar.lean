import ViewAdapters.Decimal.Binary64
import ViewAdapters.Text.Casing
import ViewAdapters.Yaml.Cursor
import ViewAdapters.Yaml.Tag

/-!
# Values of YAML scalars

The values that texts have as integers, floating-point numbers, truth values,
bytes and moments. A text that is no value of its type is a fault.
-/

namespace ViewAdapters.Yaml

abbrev ScalarResult := Except ScalarFault

def withoutUnderscores (cs : List Char) : List Char := cs.filter (· ≠ '_')

/-- A sign and what follows it; a text without a character is no number. -/
def splitNumber (cs : List Char) : ScalarResult (Bool × List Char) :=
  if cs.isEmpty then .error .noNumber else .ok (Text.splitSign cs)

/-! ## Integers -/

/-- The value of a digit of any base up to 36. -/
def digitOf? (c : Char) : Option Nat :=
  (Text.digitValue? c).or
    (if c.isLower then some (c.toNat - 87) else if c.isUpper then some (c.toNat - 55) else none)

/-- The letter that may follow a zero in front of the digits of a base. -/
def baseLetter (base : Nat) : Char := if base = 2 then 'b' else if base = 8 then 'o' else 'x'

/-- The digits of a base behind the mark that it may have. -/
def withoutMark (base : Nat) : List Char → List Char
  | '0' :: c :: r => if c.toLower = baseLetter base then r else '0' :: c :: r
  | cs => cs

def negateIf (negative : Bool) (n : Int) : Int := if negative then -n else n

/-- An integer of a base other than ten. -/
def readBased (base : Nat) (cs : List Char) : ScalarResult Int :=
  let inner := (cs.dropWhile Text.isIntegerBlank).reverse.dropWhile Text.isIntegerBlank |>.reverse
  let (negative, body) := Text.splitSign inner
  let digits := (withoutMark base body).map digitOf?
  if !digits.isEmpty && digits.all (·.any (· < base)) then
    .ok (negateIf negative (Text.readDigits base (digits.map (·.getD 0))))
  else .error (.integer base (String.ofList cs))

def readDecimal (cs : List Char) : ScalarResult Int :=
  match Text.readIntegerChars cs with
  | .ok n => .ok n
  | .error .malformed => .error (.integer 10 (String.ofList cs))
  | .error (.tooLong digits) => .error (.integerTooLong digits)

/-- The parts of a text between colons. -/
def splitColons (current : List Char) : List Char → List (List Char)
  | [] => [current.reverse]
  | c :: r =>
    if c = ':' then current.reverse :: splitColons [] r else splitColons (c :: current) r

/-- The integer that a text denotes: binary, octal, decimal, hexadecimal or in base 60. -/
def readInteger (s : String) : ScalarResult Int := do
  let (negative, body) ← splitNumber (withoutUnderscores s.toList)
  let n ← match body with
    | [] => .error .noNumber
    | ['0'] => .ok 0
    | '0' :: 'b' :: r => readBased 2 r
    | '0' :: 'x' :: r => readBased 16 r
    | '0' :: _ => readBased 8 body
    | _ =>
      if body.contains ':' then do
        let parts ← (splitColons [] body).mapM readDecimal
        pure (parts.foldl (fun n part => n * 60 + part) 0)
      else readDecimal body
  return negateIf negative n

/-! ## Floating-point numbers -/

def digitsOf (cs : List Char) : Option (List Nat) := cs.mapM Text.digitValue?

/-- An exponent behind its letter; nothing is zero. -/
def exponentOf? : List Char → Option Int
  | [] => some 0
  | _ :: r =>
    let (negative, body) := Text.splitSign r
    if body.isEmpty then none
    else (digitsOf body).map fun ds => negateIf negative (Text.readDigits 10 ds)

/-- A decimal number with an optional point and exponent, in small letters and without a sign. -/
def unsignedFloat? (negative : Bool) (cs : List Char) : Option Binary64 := do
  let isDigit (c : Char) : Bool := (Text.digitValue? c).isSome
  let whole := cs.takeWhile isDigit
  let (fraction, rest) := match cs.dropWhile isDigit with
    | '.' :: r => (r.takeWhile isDigit, r.dropWhile isDigit)
    | r => ([], r)
  if whole.isEmpty && fraction.isEmpty then none
  else if !rest.isEmpty && rest.head? != some 'e' then none
  else
    let exponent ← exponentOf? rest
    let digits ← digitsOf (whole ++ fraction)
    some (.ofDecimal negative (Text.readDigits 10 digits) (exponent - fraction.length))

/-- A number in small letters, possibly with blanks around it. -/
def readFloatPart (cs : List Char) : ScalarResult Binary64 :=
  let inner := (cs.dropWhile Text.isIntegerBlank).reverse.dropWhile Text.isIntegerBlank |>.reverse
  let (negative, body) := Text.splitSign inner
  let read := match String.ofList body with
    | "inf" | "infinity" => some (Binary64.infinity negative)
    | "nan" => some Binary64.notANumber
    | _ => unsignedFloat? negative body
  read.elim (.error (.float (String.ofList cs))) .ok

/-- The number next to a power of sixty, which has to be finite. -/
def powerOfSixty (n : Nat) : ScalarResult Binary64 :=
  let power := Binary64.ofDecimal false (Nat.pow 60 n) 0
  if power = Binary64.infinity false then .error .floatRange else .ok power

/-- The sum of parts in base 60, the last part being the least. -/
def sumSixties (parts : List Binary64) : ScalarResult Binary64 :=
  parts.reverse.zipIdx.foldlM (fun sum p => do return sum.add (p.1.mul (← powerOfSixty p.2)))
    (.ofDecimal false 0 0)

/-- The name of the number that is none. -/
def nanName : String := ".nan"

/-- The number that a text denotes, in any case. -/
def readFloat (s : String) : ScalarResult Binary64 := do
  let lowered := Text.lowerAfter [] (withoutUnderscores s.toList)
  let (negative, body) ← splitNumber lowered
  let name := String.ofList body
  let x ←
    if name = ".inf" then pure (Binary64.infinity false)
    else if name = nanName then pure Binary64.notANumber
    else if body.contains ':' then sumSixties (← (splitColons [] body).mapM readFloatPart)
    else readFloatPart body
  return if negative then x.neg else x

/-- Whether a text is the name of the number that is none, possibly with a sign. -/
def isNaNName (s : String) : Bool :=
  String.ofList (Text.splitSign (Text.lowerAfter [] (withoutUnderscores s.toList))).2 = nanName

/-! ## Truth values -/

def truthWords : List (String × Bool) :=
  [("yes", true), ("no", false), ("true", true), ("false", false), ("on", true), ("off", false)]

def readTruth (s : String) : ScalarResult Bool :=
  (truthWords.lookup (Text.lower s)).elim (.error (.truth (Text.lower s))) .ok

/-! ## Bytes -/

/-- The value of a character of base 64. -/
def sixtyFourth? (c : Char) : Option Nat :=
  if c.isUpper then some (c.toNat - 65)
  else if c.isLower then some (c.toNat - 71)
  else if c.isDigit then some (c.toNat + 4)
  else if c = '+' then some 62
  else if c = '/' then some 63
  else none

/-- The bytes of base 64 after `count` characters of a group of four, whose remaining bits
are `left`. Other characters are skipped, and a complete group ends at its padding. -/
def bytesOf? (count left pads : Nat) : List Char → Option (List UInt8)
  | [] => if count = 0 then some [] else none
  | c :: r =>
    if c = '=' then
      if 2 ≤ count && 4 ≤ count + pads + 1 then some []
      else bytesOf? count left (if 2 ≤ count then pads + 1 else pads) r
    else
      match sixtyFourth? c with
      | none => bytesOf? count left pads r
      | some n =>
        if count = 0 then bytesOf? 1 n 0 r
        else
          let whole := left * 64 + n
          let bits := 2 * (3 - count)
          (bytesOf? ((count + 1) % 4) (whole % twoTo bits) 0 r).map
            ((whole / twoTo bits).toUInt8 :: ·)

/-! ## Moments -/

def number (cs : List Char) : Nat := cs.foldl (fun n c => n * 10 + (c.toNat - 48)) 0

/-- Takes between `least` and `most` digits. -/
def takeNumber (least most : Nat) (cs : List Char) : Option (Nat × List Char) := do
  let rest ← Tag.dropDigits least most cs
  some (number (cs.take (cs.length - rest.length)), rest)

/-- The offset at the end of a moment. -/
def offsetOf? (cs : List Char) : Option (Option Calendar.Span) :=
  if !Tag.isZone cs then none
  else
    match cs.dropWhile Tag.isBlank with
    | [] => some none
    | 'Z' :: _ => some (some 0)
    | s :: r => do
      let (hours, rest) ← takeNumber 1 2 r
      let minutes := number (rest.drop 1)
      some (some (negateIf (s = '-') ((hours * 60 + minutes) * 60000000 : Nat)))

/-- The first six digits of a fraction as microseconds. -/
def microseconds (digits : List Char) : Nat :=
  let ds := digits.take 6
  number ds * tenTo (6 - ds.length)

/-- Hour, minute, second, microsecond and offset. -/
abbrev TimeParts := Nat × Nat × Nat × Nat × Option Calendar.Span

def timeOf? (cs : List Char) : Option TimeParts := do
  let (hour, r) ← takeNumber 1 2 cs
  let (minute, r) ← takeNumber 2 2 (← Tag.dropChar ':' r)
  let (second, r) ← takeNumber 2 2 (← Tag.dropChar ':' r)
  let (fraction, r) := match r with
    | '.' :: r => (r.takeWhile Char.isDigit, r.dropWhile Char.isDigit)
    | r => ([], r)
  some (hour, minute, second, microseconds fraction, ← offsetOf? r)

/-- Year, month and day, and the time if there is one. -/
def momentParts? (cs : List Char) : Option (Nat × Nat × Nat × Option TimeParts) := do
  let (year, r) ← takeNumber 4 4 cs
  let (month, r) ← takeNumber 1 2 (← Tag.dropChar '-' r)
  let (day, r) ← takeNumber 1 2 (← Tag.dropChar '-' r)
  match r with
  | [] => some (year, month, day, none)
  | c :: rest =>
    if c = 'T' || c = 't' then some (year, month, day, some (← timeOf? rest))
    else if Tag.isBlank c then
      some (year, month, day, some (← timeOf? (rest.dropWhile Tag.isBlank)))
    else none

/-- A date, or a moment with a time of day. -/
def readMoment (s : String) : ScalarResult (Calendar.Date ⊕ Calendar.DateTime) :=
  match momentParts? (Tag.withoutLineFeed s.toList) with
  | none => .error .moment
  | some (year, month, day, none) =>
    ((Calendar.Date.check year month day).mapError .calendar).map .inl
  | some (year, month, day, some (hour, minute, second, micro, offset)) =>
    match offset.filter fun o => !o.isOffset with
    | some o => .error (.offset o)
    | none =>
      ((Calendar.DateTime.check year month day hour minute second micro offset).mapError
        .calendar).map .inr

end ViewAdapters.Yaml
