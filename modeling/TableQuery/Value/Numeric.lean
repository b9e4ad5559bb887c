import TableQuery.Failure
import TableQuery.Json.Reader
import TableQuery.Number.Numeral
import TableQuery.Number.Shortest

/-! Numbers that a store answers: counts, sums and averages arrive as whole numbers, floating-point
    numbers, decimals or text, depending on the driver. -/

namespace TableQuery

namespace Decimal

/-- The whole number obtained by dropping the fraction. -/
def truncate? : Decimal → Option Int
  | .finite negative c e =>
    let magnitude : Nat := if 0 ≤ e then c * Nat.pow 10 e.toNat else c / Nat.pow 10 (-e).toNat
    some (if negative then -(magnitude : Int) else magnitude)
  | _ => none

end Decimal

namespace Value

/-- The whole number that text writes; `shown` is the text in full. -/
def integerOfText (cs : List Char) (shown : String) : Outcome Int :=
  match readInt cs with
  | .ok n => .ok n
  | .error .malformed => .error (.misuse (.notInteger shown))
  | .error (.tooLong digits) => .error (.misuse (.tooManyDigits digits))

/-- The number that the hexadecimal digits of an identifier write. -/
def integerOfUuid (s : String) : Int :=
  s.toList.foldl
    (fun n c => match Json.hexValue? c with
      | some d => n * 16 + d
      | none => n)
    0

/-- Bytes of ASCII text as characters. Other bytes become a character that is in no number. -/
def charsOfBytes (bs : List UInt8) : List Char :=
  bs.map fun b => if b < 128 then Char.ofNat b.toNat else '\x00'

/-- A value as a whole number; fractions are dropped. -/
def toInteger (v : Value) : Outcome Int :=
  match v with
  | .bool b => .ok (if b then 1 else 0)
  | .int n => .ok n
  | .double .nan => .error (.misuse (.nanToInteger "float NaN"))
  | .double x => match x.truncate? with
    | some n => .ok n
    | none => .error (.misuse (.infinityToInteger "float infinity"))
  | .decimal (.nan ..) => .error (.misuse (.nanToInteger "NaN"))
  | .decimal d => match d.truncate? with
    | some n => .ok n
    | none => .error (.misuse (.infinityToInteger "Infinity"))
  | .text s => integerOfText s.toList v.inFull
  | .bytes bs => integerOfText (charsOfBytes bs) v.inFull
  | .uuid s => .ok (integerOfUuid s)
  | v => .error (.misuse (.integerKind v.fullKindName))

/-- The floating-point number that text writes; `shown` is the text in full. -/
def doubleOfText (cs : List Char) (shown : String) : Outcome Double :=
  match readDouble? cs with
  | some x => .ok x
  | none => .error (.misuse (.notNumber shown))

/-- A value as a floating-point number. -/
def toDouble (v : Value) : Outcome Double :=
  match v with
  | .bool b => .ok (Double.ofInt (if b then 1 else 0))
  | .int n =>
    let x := Double.ofInt n
    if x.isFinite then .ok x else .error (.misuse .integerRange)
  | .double x => .ok x
  | .decimal (.nan _ true _) => .error (.misuse .signalingNumber)
  | .decimal d => .ok d.toDouble
  | .text s => doubleOfText s.toList v.inFull
  | .bytes bs => doubleOfText (charsOfBytes bs) v.inFull
  | v => .error (.misuse (.numberKind v.fullKindName))

/-- A count that a store answers: zero if it answers nothing. -/
def toCount (v : Value) : Outcome Int := if v.isFalsy then .ok 0 else v.toInteger

/-- An average that a store answers: zero if it answers nothing. -/
def toAverage (v : Value) : Outcome Double := if v.isFalsy then .ok (Double.ofInt 0) else v.toDouble

/-- A sum that a store answers: zero for null, and whole numbers without a fraction. -/
def toSum (v : Value) : Outcome Value :=
  match v with
  | .null => .ok (.int 0)
  | .bool _ | .int _ | .double _ => .ok v
  | v => do
    let x ← v.toDouble
    match x.toInt? with
    | some n => .ok (.int n)
    | none => .ok (.double x)

end Value

end TableQuery
