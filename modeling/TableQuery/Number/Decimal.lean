import TableQuery.Number.Numeral

/-! Decimal numbers of any size that keep the digits they were written with: `1.50` and `1.5` are equal
    in value but not in text. -/

namespace TableQuery

/-- A decimal number: `coefficient * 10 ^ exponent` with its sign, an infinity, or not a number. -/
inductive Decimal
  | finite (negative : Bool) (coefficient : Nat) (exponent : Int)
  | infinite (negative : Bool)
  | nan (negative signaling : Bool) (payload : String)
  deriving DecidableEq, Repr, Inhabited

namespace Decimal

def isZero : Decimal → Bool
  | .finite _ c _ => c = 0
  | _ => false

/-- Text of a finite decimal. It is positional unless the exponent is positive or more than five zeros
    would follow the point; otherwise one digit stands before the point and the exponent is written with
    its sign. -/
def finiteText (coefficient : Nat) (exponent : Int) : List Char :=
  let digits := decimalDigits coefficient
  let left : Int := exponent + digits.length
  let place : Int := if exponent ≤ 0 ∧ -6 < left then left else 1
  let body : List Char :=
    if place ≤ 0 then '0' :: '.' :: List.replicate (-place).toNat '0' ++ digits
    else if digits.length ≤ place.toNat then
      digits ++ List.replicate (place.toNat - digits.length) '0'
    else digits.take place.toNat ++ '.' :: digits.drop place.toNat
  let power := left - place
  if power = 0 then body
  else body ++ 'E' :: (if power < 0 then '-' else '+') :: decimalDigits power.natAbs

/-- The text of a decimal. -/
def text : Decimal → String
  | .finite negative c e =>
    String.ofList (if negative then '-' :: finiteText c e else finiteText c e)
  | .infinite negative => if negative then "-Infinity" else "Infinity"
  | .nan negative signaling payload =>
    (if negative then "-" else "") ++ (if signaling then "sNaN" else "NaN") ++ payload

/-- The floating-point number nearest to a decimal. -/
def toDouble : Decimal → Double
  | .finite negative c e => Double.ofScientific negative c e
  | .infinite negative => .infinite negative
  | .nan .. => .nan

/-! ### Reading -/

/-- The number written by decimal digits, most significant first. -/
def natOfDigits (cs : List Char) : Nat := cs.foldl (fun n c => n * 10 + (c.toNat - 48)) 0

/-- The number that digits write, of which there has to be one at least. -/
def readDigits? (cs : List Char) : Option Nat :=
  if !cs.isEmpty && cs.all Char.isDigit then some (natOfDigits cs) else none

/-- Reads a signed exponent. -/
def readExponent? (cs : List Char) : Option Int :=
  match cs with
  | '-' :: ds => (readDigits? ds).map fun n => -(n : Int)
  | '+' :: ds => (readDigits? ds).map Int.ofNat
  | ds => (readDigits? ds).map Int.ofNat

/-- Reads digits with an optional point and exponent. -/
def readMagnitude? (negative : Bool) (cs : List Char) : Option Decimal :=
  let whole := cs.takeWhile Char.isDigit
  let rest := cs.dropWhile Char.isDigit
  let (fraction, rest) : List Char × List Char := match rest with
    | '.' :: rest => (rest.takeWhile Char.isDigit, rest.dropWhile Char.isDigit)
    | rest => ([], rest)
  if whole.isEmpty && fraction.isEmpty then none
  else
    let coefficient := natOfDigits (whole ++ fraction)
    match rest with
    | [] => some (.finite negative coefficient (-(fraction.length : Int)))
    | c :: ds =>
      if c = 'e' ∨ c = 'E' then
        (readExponent? ds).map fun x => .finite negative coefficient (x - fraction.length)
      else none

/-- The digits behind the name of what is not a number, without zeros in front. -/
def payloadOf? (cs : List Char) : Option String :=
  if cs.all Char.isDigit then some (String.ofList (cs.dropWhile (· = '0'))) else none

/-- Reads the name of an infinity or of what is not a number, in any case. -/
def readWord? (negative : Bool) (cs : List Char) : Option Decimal :=
  let word := cs.map Char.toLower
  if word = "inf".toList ∨ word = "infinity".toList then some (.infinite negative)
  else match word with
    | 'n' :: 'a' :: 'n' :: ds => (payloadOf? ds).map (.nan negative false)
    | 's' :: 'n' :: 'a' :: 'n' :: ds => (payloadOf? ds).map (.nan negative true)
    | _ => none

def readUnsigned? (negative : Bool) (cs : List Char) : Option Decimal :=
  match readMagnitude? negative cs with
  | some d => some d
  | none => readWord? negative cs

/-- Text with the digits of every script as those of ASCII. -/
def asciiDigits (cs : List Char) : List Char :=
  cs.map fun c => match digitValue? c with
    | some d => Char.ofNat (48 + d)
    | none => c

/-- Reads the text of a decimal. Blanks around it and underscores do not matter. -/
def ofText? (text : String) : Option Decimal :=
  match asciiDigits ((trim text.toList).filter (· ≠ '_')) with
  | '-' :: cs => readUnsigned? true cs
  | '+' :: cs => readUnsigned? false cs
  | cs => readUnsigned? false cs

end Decimal

end TableQuery
