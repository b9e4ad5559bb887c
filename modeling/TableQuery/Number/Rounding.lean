/-! Exact helpers on natural numbers: rounding a quotient to the nearest whole number, and taking the
    trailing zeros off a decimal number. -/

namespace TableQuery

/-- The whole number nearest to `num / den`; of two equally near ones the even one. -/
def roundHalfEven (num den : Nat) : Nat :=
  let q := num / den
  let r := num % den
  if 2 * r < den then q
  else if den < 2 * r then q + 1
  else q + q % 2

/-- The least whole number that is not below `num / den`. -/
def ceilDiv (num den : Nat) : Nat := (num + (den - 1)) / den

/-- Takes the trailing zeros off a decimal number: `c` becomes `d` with `c = d * 10 ^ k`, and `k` is
    added to `exponent`. Zero has the exponent zero. -/
def stripZeros (c : Nat) (exponent : Int) : Nat × Int :=
  if h : c = 0 then (0, 0)
  else if c % 10 = 0 then
    have : c / 10 < c := Nat.div_lt_self (Nat.pos_of_ne_zero h) (by decide)
    stripZeros (c / 10) (exponent + 1)
  else (c, exponent)
termination_by c

/-- The decimal digits of a natural number, most significant first. -/
def decimalDigits (n : Nat) : List Char := Nat.toDigits 10 n

/-- How many decimal digits a natural number has; zero has one. -/
def digitCount (n : Nat) : Nat := (decimalDigits n).length

/-- The decimal text of a natural number. -/
def natText (n : Nat) : String := String.ofList (decimalDigits n)

/-- The decimal text of a whole number, with `-` in front of a negative one. -/
def intText : Int → String
  | .ofNat n => natText n
  | .negSucc n => "-" ++ natText (n + 1)

end TableQuery
