import TableQuery.Number.Rounding

/-! Floating-point numbers of 64 bits, held exactly as a sign, a whole significand and a power of two.
    Every operation works on exact ratios and rounds once, to the nearest number, ties to even. -/

namespace TableQuery

/-- A floating-point number of 64 bits. A finite one is `significand * 2 ^ exponent` with its sign. In
    canonical form the significand is below `2 ^ 53` and the exponent is at least `-1074`; numbers made
    by `Double.ofRatio` are canonical. -/
inductive Double
  | finite (negative : Bool) (significand : Nat) (exponent : Int)
  | infinite (negative : Bool)
  | nan
  deriving DecidableEq, Repr, Inhabited

namespace Double

/-- The exponent of the smallest steps between numbers. -/
def minExponent : Int := -1074

/-- The exponent of the largest steps between numbers. -/
def maxExponent : Int := 971

/-- The nearest multiple of `2 ^ exponent` to `num / den`, as a count of steps. -/
def steps (num den : Nat) (exponent : Int) : Nat :=
  if 0 ≤ exponent then roundHalfEven num (den * Nat.pow 2 exponent.toNat)
  else roundHalfEven (num * Nat.pow 2 (-exponent).toNat) den

/-- The exponent at which `num / den` has a significand of 53 bits, raised to `minExponent` if it is
    smaller. -/
def stepExponent (num den : Nat) : Int :=
  let guess : Int := (Nat.log2 num : Int) - (Nat.log2 den : Int) - 52
  let whole :=
    if 0 ≤ guess then num / (den * Nat.pow 2 guess.toNat)
    else num * Nat.pow 2 (-guess).toNat / den
  max (if whole < Nat.pow 2 52 then guess - 1 else guess) minExponent

/-- The number nearest to `num / den` with the given sign; infinite when it is out of range. The
    denominator must not be zero. -/
def ofRatio (negative : Bool) (num den : Nat) : Double :=
  if num = 0 then .finite negative 0 minExponent
  else
    let e := stepExponent num den
    let m := steps num den e
    let (m, e) := if m = Nat.pow 2 53 then (Nat.pow 2 52, e + 1) else (m, e)
    if maxExponent < e then .infinite negative else .finite negative m e

/-- The number nearest to `digits * 10 ^ exponent`. -/
def ofScientific (negative : Bool) (digits : Nat) (exponent : Int) : Double :=
  if digits = 0 then .finite negative 0 minExponent
  else
    let magnitude : Int := exponent + digitCount digits
    if 400 < magnitude then .infinite negative
    else if magnitude < -400 then .finite negative 0 minExponent
    else if 0 ≤ exponent then ofRatio negative (digits * Nat.pow 10 exponent.toNat) 1
    else ofRatio negative digits (Nat.pow 10 (-exponent).toNat)

/-- The number nearest to a whole number. -/
def ofInt (n : Int) : Double := ofRatio (n < 0) n.natAbs 1

/-- The number nearest to `num / den`; infinite when it is out of range. -/
def ofQuotient (num : Int) (den : Nat) : Double := ofRatio (num < 0) num.natAbs den

def isFinite : Double → Bool
  | .finite .. => true
  | _ => false

def isZero : Double → Bool
  | .finite _ m _ => m = 0
  | _ => false

/-- Exact numerator and denominator of the absolute value of a finite number. -/
def ratio (significand : Nat) (exponent : Int) : Nat × Nat :=
  if 0 ≤ exponent then (significand * Nat.pow 2 exponent.toNat, 1)
  else (significand, Nat.pow 2 (-exponent).toNat)

/-- The exact decimal form `c * 10 ^ e` of a finite number, without trailing zeros. -/
def decimalForm (significand : Nat) (exponent : Int) : Nat × Int :=
  if 0 ≤ exponent then stripZeros (significand * Nat.pow 2 exponent.toNat) 0
  else stripZeros (significand * Nat.pow 5 (-exponent).toNat) exponent

/-- The whole number that a number is, if it is one. -/
def toInt? : Double → Option Int
  | .finite negative m e =>
    let (num, den) := ratio m e
    if num % den = 0 then some (if negative then -((num / den : Nat) : Int) else (num / den : Nat))
    else none
  | _ => none

/-- The whole number obtained by dropping the fraction of a finite number. -/
def truncate? : Double → Option Int
  | .finite negative m e =>
    let (num, den) := ratio m e
    some (if negative then -((num / den : Nat) : Int) else (num / den : Nat))
  | _ => none

/-- The least whole number that is not below a finite number. -/
def ceil? : Double → Option Int
  | .finite negative m e =>
    let (num, den) := ratio m e
    some (if negative then -((num / den : Nat) : Int) else (ceilDiv num den : Nat))
  | _ => none

def isNegative : Double → Bool
  | .finite negative m _ => negative && m ≠ 0
  | .infinite negative => negative
  | .nan => false

end Double

end TableQuery
