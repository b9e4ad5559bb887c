import TableQuery.Number.Double
import TableQuery.Text.Blank
import TableQuery.Text.DigitTable

/-! Numbers read from text. Digits of every script are accepted, blanks may stand around the number, and
    a single underscore may stand between two digits. -/

namespace TableQuery

/-- The most digits that a whole number may be written with. -/
def maxNumeralDigits : Nat := 4300

/-- Why text is not a whole number. -/
inductive NumeralError
  /-- The text is not a sign and digits. -/
  | malformed
  /-- The text has more digits than are accepted. -/
  | tooLong (digits : Nat)
  deriving DecidableEq, Repr

/-- A blank that may stand around a number; the four separators of ASCII may not. -/
def isNumeralBlank (c : Char) : Bool := isBlank c && !(28 ≤ c.toNat && c.toNat ≤ 31)

def trimNumeral (cs : List Char) : List Char :=
  ((cs.dropWhile isNumeralBlank).reverse.dropWhile isNumeralBlank).reverse

def isAscii (c : Char) : Bool := c.toNat < 128

/-- The value of a decimal digit of any script. -/
def digitValue? (c : Char) : Option Nat :=
  if c.toNat < 128 then
    if '0' ≤ c ∧ c ≤ '9' then some (c.toNat - 48) else none
  else zeroDigits.findSome? fun first =>
    if first ≤ c.toNat ∧ c.toNat ≤ first + 9 then some (c.toNat - first) else none

/-- The digits at the start of text and what follows them. An underscore is taken only between two
    digits; `afterDigit` says whether a digit has just been read. -/
def takeDigits (afterDigit : Bool) : List Char → List Nat × List Char
  | [] => ([], [])
  | [c] => match digitValue? c with
    | some d => ([d], [])
    | none => ([], [c])
  | c :: d :: rest =>
    match digitValue? c with
    | some v =>
      let (vs, tail) := takeDigits true (d :: rest)
      (v :: vs, tail)
    | none =>
      if c = '_' ∧ afterDigit ∧ (digitValue? d).isSome then takeDigits false (d :: rest)
      else ([], c :: d :: rest)

/-- The number written by decimal digits, most significant first. -/
def ofDigits (ds : List Nat) : Nat := ds.foldl (fun n d => n * 10 + d) 0

/-- A sign at the start of text, and what follows it. -/
def takeSign : List Char → Bool × List Char
  | '-' :: cs => (true, cs)
  | '+' :: cs => (false, cs)
  | cs => (false, cs)

/-- Reads a whole number. Digits are counted before it is seen what follows them, unless that is an
    underscore. -/
def readInt (cs : List Char) : Except NumeralError Int :=
  let (negative, body) := takeSign (trimNumeral cs)
  let (ds, tail) := takeDigits false body
  if ds.isEmpty || tail.head? = some '_' then .error .malformed
  else if maxNumeralDigits < ds.length then .error (.tooLong ds.length)
  else if !tail.isEmpty then .error .malformed
  else .ok (if negative then -(ofDigits ds : Int) else ofDigits ds)

/-- The exponent part of a floating-point number, if the text is one; no text means exponent zero. -/
def readPower? (cs : List Char) : Option Int :=
  match cs with
  | [] => some 0
  | c :: rest =>
    if c = 'e' ∨ c = 'E' then
      let (negative, body) := takeSign rest
      let (ds, tail) := takeDigits false body
      if ds.isEmpty || !tail.isEmpty then none
      else some (if negative then -(ofDigits ds : Int) else ofDigits ds)
    else none

/-- Reads digits with an optional point and exponent. -/
def readPositional? (negative : Bool) (cs : List Char) : Option Double :=
  let (whole, rest) := takeDigits false cs
  let (fraction, rest) := match rest with
    | '.' :: rest => takeDigits false rest
    | rest => ([], rest)
  if whole.isEmpty && fraction.isEmpty then none
  else (readPower? rest).map fun power =>
    Double.ofScientific negative (ofDigits (whole ++ fraction)) (power - fraction.length)

/-- Reads a floating-point number: digits with an optional point and exponent, or the name of an infinity
    or of not-a-number in any case. -/
def readDouble? (cs : List Char) : Option Double :=
  let (negative, body) := takeSign (trimNumeral cs)
  let word := String.ofList (body.map Char.toLower)
  if word = "inf" ∨ word = "infinity" then some (.infinite negative)
  else if word = "nan" then some .nan
  else readPositional? negative body

end TableQuery
