import TableQuery.Number.Double

/-! The text of a floating-point number: the fewest digits that read back as the same number. -/

namespace TableQuery

namespace Double

/-- The reals that round to a number, scaled to whole numbers over one denominator. -/
structure Interval where
  low : Nat
  value : Nat
  high : Nat
  den : Nat
  /-- Whether the two ends round to the number as well. -/
  closed : Bool

/-- The rounding interval of a positive number in canonical form. Below a power of two the numbers lie
    twice as close, except at the smallest exponent. -/
def interval (m : Nat) (e : Int) : Interval :=
  let narrow : Bool := m = Nat.pow 2 52 && minExponent < e
  let below := if narrow then 4 * m - 1 else 4 * m - 2
  let (scale, den) : Nat × Nat :=
    if 2 ≤ e then (Nat.pow 2 (e - 2).toNat, 1) else (1, Nat.pow 2 (2 - e).toNat)
  ⟨below * scale, 4 * m * scale, (4 * m + 2) * scale, den, m % 2 = 0⟩

def Interval.contains (i : Interval) (num den : Nat) : Bool :=
  if i.closed then i.low * den ≤ num * i.den && num * i.den ≤ i.high * den
  else i.low * den < num * i.den && num * i.den < i.high * den

/-- The exponent `p` with `10 ^ p ≤ num / den < 10 ^ (p + 1)`, for a positive ratio. -/
def leadingPower (num den : Nat) : Int :=
  let bits : Int := (Nat.log2 num : Int) - (Nat.log2 den : Int)
  let guess : Int := bits * 30103 / 100000
  let reaches (p : Int) : Bool :=
    if 0 ≤ p then den * Nat.pow 10 p.toNat ≤ num else den ≤ num * Nat.pow 10 (-p).toNat
  if reaches (guess + 1) then guess + 1
  else if reaches guess then guess
  else guess - 1

/-- The point of the grid of multiples of `10 ^ exponent` that lies in the interval nearest to its
    value, as a count of steps; `none` if no point of the grid lies in the interval. A tie goes to the
    even count. -/
def gridPoint? (i : Interval) (exponent : Int) : Option Nat :=
  let (up, down) : Nat × Nat :=
    if 0 ≤ exponent then (Nat.pow 10 exponent.toNat, 1) else (1, Nat.pow 10 (-exponent).toNat)
  let num := i.value * down
  let den := i.den * up
  let q := num / den
  let r := num % den
  let lower := i.contains (q * up) down
  let upper := i.contains ((q + 1) * up) down
  match lower, upper with
  | true, true => some (if 2 * r < den then q else if den < 2 * r then q + 1 else q + q % 2)
  | true, false => some q
  | false, true => some (q + 1)
  | false, false => none

/-- Tries grids from coarse to fine. -/
def firstGrid (i : Interval) (power : Int) : Nat → Nat → Option (Nat × Int)
  | 0, _ => none
  | fuel + 1, digits =>
    let exponent : Int := power - digits + 1
    match gridPoint? i exponent with
    | some n => some (n, exponent)
    | none => firstGrid i power fuel (digits + 1)

/-- The shortest decimal `c * 10 ^ e` that reads back as a positive number. Seventeen digits always
    suffice; the exact value stands for numbers that are not canonical. -/
def shortest (m : Nat) (e : Int) : Nat × Int :=
  let i := interval m e
  match firstGrid i (leadingPower i.value i.den) 17 1 with
  | some (c, x) => stripZeros c x
  | none => decimalForm m e

/-- Digits with a point after the first `place` of them, or before all of them if `place` is not
    positive; a number without a fraction ends in `.0`. -/
def positional (digits : List Char) (place : Int) : List Char :=
  if place ≤ 0 then '0' :: '.' :: List.replicate (-place).toNat '0' ++ digits
  else if digits.length ≤ place.toNat then
    digits ++ List.replicate (place.toNat - digits.length) '0' ++ ['.', '0']
  else digits.take place.toNat ++ '.' :: digits.drop place.toNat

/-- One digit, the fraction if there is one, and an exponent of at least two digits with its sign. -/
def exponential (digits : List Char) (power : Int) : List Char :=
  let head := match digits with
    | [] => []
    | [d] => [d]
    | d :: rest => d :: '.' :: rest
  let size := decimalDigits power.natAbs
  let size := if size.length < 2 then '0' :: size else size
  head ++ 'e' :: (if power < 0 then '-' else '+') :: size

/-- The text of a positive decimal `c * 10 ^ e`: positional from `0.0001` up to sixteen digits in front
    of the point, exponential elsewhere. -/
def decimalText (c : Nat) (e : Int) : List Char :=
  let digits := decimalDigits c
  let place : Int := e + digits.length
  if -4 < place ∧ place ≤ 16 then positional digits place
  else exponential digits (place - 1)

/-- The shortest text that reads back as the number. -/
def text : Double → String
  | .nan => "nan"
  | .infinite negative => if negative then "-inf" else "inf"
  | .finite negative m e =>
    let body := if m = 0 then ['0', '.', '0'] else
      let (c, x) := shortest m e
      decimalText c x
    String.ofList (if negative then '-' :: body else body)

end Double

end TableQuery
