import ViewAdapters.Decimal.Binary64

/-!
# Shortest decimal text

A floating-point number is written with the fewest digits that read back as
the same number, and among those by the digits nearest to it.

* `Binary64.text` writes those digits positionally from `10 ^ -4` to below
  `10 ^ 16`, always with a decimal point, and with an exponent of at least two
  digits elsewhere.
-/

namespace ViewAdapters.Binary64

/-- A positive finite number in units of `2 ^ exponent`, with the interval of
what rounds to it; the ends belong to the interval when `closed`. -/
structure Interval where
  low : Nat
  value : Nat
  high : Nat
  exponent : Int
  closed : Bool
  deriving DecidableEq, Repr

/-- The interval that rounds to `mantissa * 2 ^ exponent`, in quarters of the
last place. Below a power of two the neighbour is only half as far. -/
def interval (mantissa : Nat) (exponent : Int) : Interval where
  low := 4 * mantissa - (if mantissa = twoTo 52 ∧ exponent ≠ -1074 then 1 else 2)
  value := 4 * mantissa
  high := 4 * mantissa + 2
  exponent := exponent - 2
  closed := mantissa % 2 = 0

/-- Numerators of `n * 2 ^ twos` and `d * 10 ^ tens` over one denominator. -/
def align (n : Nat) (twos : Int) (d : Nat) (tens : Int) : Nat × Nat :=
  (n * twoTo twos.toNat * tenTo (-tens).toNat, d * tenTo tens.toNat * twoTo (-twos).toNat)

def Interval.holds (i : Interval) (digits : Nat) (tens : Int) : Bool :=
  let (low, d) := align i.low i.exponent digits tens
  let high := (align i.high i.exponent digits tens).1
  if i.closed then decide (low ≤ d) && decide (d ≤ high) else decide (low < d) && decide (d < high)

/-- Of the two multiples of `10 ^ tens` around the value, those in the interval,
the nearer one first; a tie goes to the even one. -/
def Interval.pick (i : Interval) (tens : Int) : Option Nat :=
  let (v, unit) := align i.value i.exponent 1 tens
  let below := v / unit
  let twice := 2 * (v % unit)
  let nearer := if twice < unit then below
    else if unit < twice then below + 1
    else below + below % 2
  let other := 2 * below + 1 - nearer
  if i.holds nearer tens then some nearer
  else if i.holds other tens then some other else none

/-- The exponent of the first decimal digit of a value, by search from an estimate. -/
def Interval.magnitude (i : Interval) : Int :=
  let estimate : Int := ((i.value.log2 : Int) + i.exponent) * 30103 / 100000
  let atLeast (e : Int) : Bool :=
    let (v, p) := align i.value i.exponent 1 e
    decide (p ≤ v)
  if atLeast (estimate + 1) then estimate + 1
  else if atLeast estimate then estimate else estimate - 1

/-- Digits and their power of ten, with trailing zeros moved into the power. -/
def stripZeros : (fuel : Nat) → Nat → Int → Nat × Int
  | 0, d, e => (d, e)
  | fuel + 1, d, e => if d ≠ 0 ∧ d % 10 = 0 then stripZeros fuel (d / 10) (e + 1) else (d, e)

/-- The shortest digits of a positive number and their power of ten; seventeen always suffice. -/
def shortest (mantissa : Nat) (exponent : Int) : Nat × Int :=
  let i := interval mantissa exponent
  let top := i.magnitude
  let hit := (List.range 17).findSome? fun (n : Nat) =>
    (i.pick (top - n)).map fun d => stripZeros 20 d (top - n)
  hit.getD (0, 0)

/-- Digits with the decimal point after the first one and an exponent, or in place. -/
def layout (digits : List Char) (tens : Int) : List Char :=
  let count := digits.length
  let point : Int := count + tens
  if -4 < point ∧ point ≤ 16 then
    if point ≤ 0 then ['0', '.'] ++ List.replicate (-point).toNat '0' ++ digits
    else if tens < 0 then digits.take point.toNat ++ ['.'] ++ digits.drop point.toNat
    else digits ++ List.replicate tens.toNat '0' ++ ['.', '0']
  else
    let e := point - 1
    let exponentDigits := Nat.toDigits 10 e.natAbs
    let padded := if exponentDigits.length < 2 then '0' :: exponentDigits else exponentDigits
    digits.take 1 ++ (if count = 1 then [] else '.' :: digits.drop 1) ++
      ['e', if e < 0 then '-' else '+'] ++ padded

/-- The text of a floating-point number. -/
def text (x : Binary64) : String :=
  match x.view with
  | .notANumber => "nan"
  | .infinite negative => if negative then "-inf" else "inf"
  | .finite negative 0 _ => if negative then "-0.0" else "0.0"
  | .finite negative m e =>
    let (digits, tens) := shortest m e
    String.ofList ((if negative then ['-'] else []) ++ layout (Nat.toDigits 10 digits) tens)

end ViewAdapters.Binary64
