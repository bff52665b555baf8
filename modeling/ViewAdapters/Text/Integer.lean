import ViewAdapters.Decimal.Power
import ViewAdapters.Text.Blank
import ViewAdapters.Text.DecimalDigits

/-!
# Integers in text

A decimal integer may stand between blanks, carry a sign, use the digits of
any script and separate digits by single underscores. It has at most 4300
digits, which bounds the time that reading takes.

* `numeral?_eq_ok`: an integer has a text exactly if it has not too many digits.
-/

namespace ViewAdapters.Text

/-- The most digits of an integer that is read. -/
def maxIntegerDigits : Nat := 4300

/-- Blanks around an integer; the information separators do not count. -/
def isIntegerBlank (c : Char) : Bool := isBlank c && !(28 ≤ c.toNat && c.toNat ≤ 31)

/-- The values of digits, with single underscores between two of them. -/
def digitValues? : List Char → Option (List Nat)
  | [] => none
  | [c] => (digitValue? c).map ([·])
  | c :: '_' :: r => do some ((← digitValue? c) :: (← digitValues? r))
  | c :: r => do some ((← digitValue? c) :: (← digitValues? r))

/-- The number that digits denote in a base, most significant digit first. -/
def readDigits (base : Nat) (ds : List Nat) : Nat := ds.foldl (fun n d => n * base + d) 0

/-- Why a text is no integer. -/
inductive IntegerFault where
  | malformed
  | tooLong (digits : Nat)
  deriving DecidableEq, Repr

/-- A sign and what follows it. -/
def splitSign : List Char → Bool × List Char
  | '-' :: r => (true, r)
  | '+' :: r => (false, r)
  | r => (false, r)

def readIntegerChars (cs : List Char) : Except IntegerFault Int :=
  let inner := (cs.dropWhile isIntegerBlank).reverse.dropWhile isIntegerBlank |>.reverse
  let (negative, body) := splitSign inner
  match digitValues? body with
  | none => .error .malformed
  | some ds =>
    if maxIntegerDigits < ds.length then .error (.tooLong ds.length)
    else .ok (if negative then -(readDigits 10 ds : Int) else readDigits 10 ds)

def readInteger (s : String) : Except IntegerFault Int := readIntegerChars s.toList

def readInteger? (s : String) : Option Int := (readInteger s).toOption

/-! ## Writing -/

/-- The digits of an integer, behind its sign if it is negative. -/
def numeral (n : Int) : String :=
  if n < 0 then String.ofList ('-' :: Nat.toDigits 10 n.natAbs)
  else String.ofList (Nat.toDigits 10 n.natAbs)

/-- An integer with too many digits has no text. -/
inductive NumeralFault where
  | tooLong
  deriving DecidableEq, Repr

def NumeralFault.message : NumeralFault → String
  | .tooLong => "Exceeds the limit (" ++ toString maxIntegerDigits ++
      " digits) for integer string conversion; use sys.set_int_max_str_digits() to " ++
      "increase the limit"

/-- A text that may be missing because an integer in it has too many digits. -/
abbrev Shown := Except NumeralFault

/-- The least number with too many digits. -/
def numeralBound : Nat := tenTo maxIntegerDigits

/-- The text of an integer. -/
def numeral? (n : Int) : Shown String :=
  if n.natAbs < numeralBound then .ok (numeral n) else .error .tooLong

theorem numeral?_eq_ok {n : Int} {s : String} :
    numeral? n = .ok s ↔ n.natAbs < numeralBound ∧ s = numeral n := by
  unfold numeral?
  by_cases h : n.natAbs < numeralBound
  · simp [h, eq_comm]
  · simp [h]

end ViewAdapters.Text
