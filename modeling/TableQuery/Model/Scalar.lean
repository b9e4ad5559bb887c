import TableQuery.Calendar.Timestamp
import TableQuery.Model.Fit
import TableQuery.Number.Numeral
import TableQuery.Text.Encoding
import TableQuery.Value.Display

/-! Bringing values to the single types: whole numbers, floating-point numbers, truth values, text and
    instants. Values of other kinds are converted where nothing is lost. -/

namespace TableQuery

namespace Scalar

open Checked

/-- The text of a value that may be read as something else: text itself, or bytes; nothing for other
    values. Bytes that are not text are a problem of the given kind. -/
def readable? (kind : String) (v : Value) : Checked (Option (List Char)) :=
  match v with
  | .text s => .ok (some s.toList)
  | .bytes bs => match Encoding.ofUtf8? (bs.map UInt8.toNat) with
    | some cs => .ok (some cs)
    | none => problem kind
  | _ => .ok none

/-! ### Underscores -/

/-- Whether two underscores stand side by side. -/
def hasDoubleUnderscore : List Char → Bool
  | '_' :: '_' :: _ => true
  | _ :: cs => hasDoubleUnderscore cs
  | [] => false

/-- Text without its underscores, if there are any and each stands alone between other characters. -/
def withoutUnderscores? (cs : List Char) : Option (List Char) :=
  if cs.head? = some '_' || cs.getLast? = some '_' || !cs.contains '_' || hasDoubleUnderscore cs then none
  else some (cs.filter (· ≠ '_'))

/-! ### Whole numbers -/

/-- Reads a whole number in the plain form: digits without zeros in front, perhaps behind a minus sign. The
    characters of the number are counted before it is seen what follows them. -/
def readPlain (cs : List Char) : Except NumeralError Int :=
  let (negative, body) := match cs with
    | '-' :: body => (true, body)
    | body => (false, body)
  let ds := body.takeWhile Char.isDigit
  let length := ds.length + (if negative then 1 else 0)
  if ds.isEmpty || (ds.head? = some '0' && 1 < ds.length) then .error .malformed
  else if maxNumeralDigits < length then .error (.tooLong length)
  else if ds.length < body.length then .error .malformed
  else
    let n : Int := ds.foldl (fun n c => n * 10 + (c.toNat - 48)) (0 : Nat)
    .ok (if negative then -n else n)

/-- Drops the zeros in front of a number, with underscores between them, but keeps the last character in
    front of a point or the end. -/
def afterZeros : List Char → Option (List Char)
  | [] => none
  | [c] => some [c]
  | c :: d :: cs =>
    if d = '0' ∨ d = '_' then afterZeros (d :: cs)
    else if d = '.' then some (c :: d :: cs)
    else if d.isDigit then some (d :: cs)
    else none

/-- A number without zeros in front, if it starts like one. -/
def withoutZeros? (cs : List Char) : Option (List Char) :=
  match cs with
  | [] => none
  | c :: _ =>
    if c = '0' then afterZeros cs
    else if c.isDigit ∨ c = '-' then some cs
    else none

/-- A number without a fraction of zeros. -/
def withoutFraction (cs : List Char) : List Char :=
  match cs.dropWhile (· ≠ '.') with
  | _ :: zeros => if !zeros.isEmpty && zeros.all (· = '0') then cs.takeWhile (· ≠ '.') else cs
  | [] => cs

/-- A number in the plain form: blanks around it, a plus sign, zeros in front, a fraction of zeros and
    underscores are taken off. -/
def plainForm? (cs : List Char) : Option (List Char) := do
  let cs := trimNumeral cs
  let unsigned ← match cs with
    | '+' :: '-' :: _ => none
    | '+' :: cs => some cs
    | cs => some cs
  let cs := withoutFraction (← withoutZeros? unsigned)
  some ((withoutUnderscores? cs).getD cs)

/-- The whole number that text writes. -/
def intOfText (cs : List Char) : Checked Fitted :=
  let ofPlain (r : Except NumeralError Int) : Checked Fitted :=
    match r with
    | .ok n => converted (.int n)
    | .error (.tooLong _) => problem "int_parsing_size"
    | .error .malformed => problem "int_parsing"
  match readPlain cs with
  | .error .malformed => match plainForm? cs with
    | some plain => ofPlain (readPlain plain)
    | none => problem "int_parsing"
  | r => ofPlain r

/-- Whether a whole number lies within the range of 64 bits. -/
def isWord (n : Int) : Bool := -(Nat.pow 2 63 : Nat) ≤ n && n < (Nat.pow 2 63 : Nat)

/-- The whole number that a floating-point number is, within the range of 64 bits without its least
    number. -/
def intOfDouble (x : Double) : Checked Int :=
  match x.toInt? with
  | some n => if n.natAbs < Nat.pow 2 63 then .ok n else problem "int_parsing_size"
  | none => problem (if x.isFinite then "int_from_float" else "finite_number")

/-- The whole number that a decimal is. -/
def intOfDecimal (d : Decimal) : Checked Fitted :=
  match d with
  | .finite negative c e =>
    let (c, e) := stripZeros c e
    if e < 0 then problem "int_from_float"
    else
      let magnitude : Nat := c * Nat.pow 10 e.toNat
      converted (.int (if negative then -(magnitude : Int) else magnitude))
  | _ => problem "finite_number"

/-- A whole number. A named constant gives what it stands for. -/
def int (v : Value) : Checked Fitted := do
  match ← readable? "int_parsing" v with
  | some cs => intOfText cs
  | none => match v with
    | .int _ => same v
    | .bool b => converted (.int (if b then 1 else 0))
    | .double x => do converted (.int (← intOfDouble x))
    | .decimal d => intOfDecimal d
    | .enum _ _ v => converted v
    | _ => problem "int_type"

/-! ### Floating-point numbers -/

/-- A value that counts as a floating-point number. -/
def double? : Value → Option Double
  | .double x => some x
  | .int n => if (Double.ofInt n).isFinite then some (Double.ofInt n) else none
  | .bool b => some (Double.ofInt (if b then 1 else 0))
  | .decimal (.nan _ true _) => none
  | .decimal d => some d.toDouble
  | _ => none

/-- Reads a floating-point number of ASCII characters without blanks and underscores. -/
def readPlainDouble? (cs : List Char) : Option Double :=
  if cs.all fun c => isAscii c && !isNumeralBlank c && c ≠ '_' then readDouble? cs else none

/-- The floating-point number that text writes. -/
def floatOfText (cs : List Char) : Checked Fitted :=
  match (readPlainDouble? (trimNumeral cs)).orElse fun _ =>
    (withoutUnderscores? cs).bind readPlainDouble? with
  | some x => converted (.double x)
  | none => problem "float_parsing"

/-- A floating-point number. -/
def float (v : Value) : Checked Fitted := do
  match ← readable? "float_parsing" v with
  | some cs => floatOfText cs
  | none => match v, double? v with
    | .double _, _ => same v
    | .bool _, some x => converted (.double x)
    | _, some x => akin (.double x)
    | _, none => problem "float_type"

/-! ### Truth values -/

/-- The truth value that a word names, in any case. -/
def truthWord? (s : String) : Option Bool :=
  let w := String.ofList (s.toList.map Char.toLower)
  if ["1", "true", "t", "yes", "y", "on"].contains w then some true
  else if ["0", "false", "f", "no", "n", "off"].contains w then some false
  else none

/-- The truth value that a whole number stands for. -/
def boolOfInt (n : Int) : Checked Fitted :=
  if n = 0 then converted (.bool false)
  else if n = 1 then converted (.bool true)
  else problem "bool_parsing"

/-- A truth value. One, zero, and the words for yes and no are converted. -/
def bool (v : Value) : Checked Fitted := do
  match ← readable? "bool_parsing" v with
  | some cs => match truthWord? (String.ofList cs) with
    | some b => converted (.bool b)
    | none => problem "bool_parsing"
  | none => match v with
    | .bool _ => same v
    | .int n => if isWord n then boolOfInt n else problem "bool_type"
    | v => match double? v with
      | some x => match intOfDouble x with
        | .ok n => boolOfInt n
        | .error _ => problem "bool_type"
      | none => problem "bool_type"

/-! ### Text -/

/-- Text. Bytes are read, and a named constant is shown. -/
def text (v : Value) : Checked Fitted := do
  match v with
  | .text _ => same v
  | .enum .. => converted (.text v.display)
  | v => match ← readable? "string_unicode" v with
    | some cs => converted (.text (String.ofList cs))
    | none => problem "string_type"

/-! ### Instants -/

/-- An instant. Text, bytes and numbers are read as timestamps, and a day becomes its midnight. -/
def instant (v : Value) : Checked Fitted :=
  let ofTimestamp (kind : String) (i : Option Instant) : Checked Fitted :=
    match i with
    | some i => converted (.instant i)
    | none => problem kind
  let ofChars (cs : List Char) : Checked Fitted :=
    ofTimestamp "datetime_from_date_parsing" (Timestamp.ofText? (String.ofList cs))
  match v with
  | .instant _ => same v
  | .date d => converted (.instant (.midnight d))
  | .text s => ofChars s.toList
  | .bytes bs =>
    ofTimestamp "datetime_from_date_parsing"
      ((Encoding.ofUtf8? (bs.map UInt8.toNat)).bind fun cs => Timestamp.ofText? (String.ofList cs))
  | .bool _ => problem "datetime_type"
  | .int n =>
    if (Double.ofInt n).isFinite then ofTimestamp "datetime_parsing" (Timestamp.ofCount n 0)
    else problem "datetime_type"
  | v => match double? v with
    | some x => ofTimestamp "datetime_parsing" (Timestamp.ofDouble? x)
    | none => problem "datetime_type"

end Scalar

end TableQuery
