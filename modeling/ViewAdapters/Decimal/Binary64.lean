import ViewAdapters.Decimal.Power

/-!
# Binary floating-point numbers

A number of 64 bits: a sign, eleven bits of exponent and fifty-two of
fraction. Decimal text is read to the nearest such number, a tie going to the
even one, in exact integer arithmetic.
-/

namespace ViewAdapters

structure Binary64 where
  bits : UInt64
  deriving DecidableEq, Repr

namespace Binary64

/-- What the bits denote; a finite number is `mantissa * 2 ^ exponent`. -/
inductive View where
  | finite (negative : Bool) (mantissa : Nat) (exponent : Int)
  | infinite (negative : Bool)
  | notANumber
  deriving DecidableEq, Repr

def view (x : Binary64) : View :=
  let n := x.bits.toNat
  let negative : Bool := decide (twoTo 63 ≤ n)
  let scale : Nat := n / twoTo 52 % twoTo 11
  let fraction : Nat := n % twoTo 52
  if scale = 2047 then (if fraction = 0 then .infinite negative else .notANumber)
  else if scale = 0 then .finite negative fraction (-1074)
  else .finite negative (twoTo 52 + fraction) ((scale : Int) - 1075)

def ofNatBits (negative : Bool) (n : Nat) : Binary64 :=
  ⟨UInt64.ofNat ((if negative then twoTo 63 else 0) + n)⟩

/-- The bits of the infinite number without its sign. -/
def infinityBits : Nat := 2047 * twoTo 52

def infinity (negative : Bool) : Binary64 := ofNatBits negative infinityBits

def notANumber : Binary64 := ofNatBits false (infinityBits + twoTo 51)

/-- The quotient rounded to the nearest integer, a tie going to the even one. -/
def roundDiv (num den : Nat) : Nat :=
  let q := num / den
  let twice := 2 * (num % den)
  if twice < den then q else if den < twice then q + 1 else q + q % 2

/-- The number nearest to `num / den`, for a positive `den`. -/
def ofRatio (negative : Bool) (num den : Nat) : Binary64 :=
  let scaled (exponent : Int) : Nat × Nat :=
    if 0 ≤ exponent then (num, den * twoTo exponent.toNat)
    else (num * twoTo (-exponent).toNat, den)
  let low : Int := max ((num.log2 : Int) - den.log2 - 53) (-1074)
  let whole := (scaled low).1 / (scaled low).2
  let exponent := if twoTo 53 ≤ whole then low + 1 else low
  let (n, d) := scaled exponent
  let bits := (exponent + 1074).toNat * twoTo 52 + roundDiv n d
  if infinityBits ≤ bits then infinity negative else ofNatBits negative bits

/-- The number nearest to `digits * 10 ^ exponent`. Beyond the range of all
finite numbers the powers of ten are not computed. -/
def ofDecimal (negative : Bool) (digits : Nat) (exponent : Int) : Binary64 :=
  if digits = 0 then ofNatBits negative 0
  else
    let magnitude : Int := (Nat.toDigits 10 digits).length + exponent
    if 311 < magnitude then infinity negative
    else if magnitude < -330 then ofNatBits negative 0
    else if 0 ≤ exponent then ofRatio negative (digits * tenTo exponent.toNat) 1
    else ofRatio negative digits (tenTo (-exponent).toNat)

/-- Whether the number is one of the two zeros. -/
def isZero (x : Binary64) : Bool := x.bits.toNat % twoTo 63 == 0

/-- The integer that the number equals, if it equals one. -/
def toInt? (x : Binary64) : Option Int :=
  match x.view with
  | .finite negative m e =>
    let sign (n : Nat) : Int := if negative then -(n : Int) else n
    if 0 ≤ e then some (sign (m * twoTo e.toNat))
    else if m % twoTo (-e).toNat = 0 then some (sign (m / twoTo (-e).toNat)) else none
  | _ => none

/-- Equality of numbers: the zeros are equal and a value that is no number differs from itself. -/
def sameNumber (x y : Binary64) : Bool :=
  x.view != .notANumber && y.view != .notANumber && (x == y || (x.isZero && y.isZero))

def add (x y : Binary64) : Binary64 := ⟨(Float.ofBits x.bits + Float.ofBits y.bits).toBits⟩

def mul (x y : Binary64) : Binary64 := ⟨(Float.ofBits x.bits * Float.ofBits y.bits).toBits⟩

def neg (x : Binary64) : Binary64 := ⟨x.bits ^^^ 0x8000000000000000⟩

end Binary64
end ViewAdapters
