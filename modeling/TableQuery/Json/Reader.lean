import TableQuery.Number.Numeral
import TableQuery.Value.Basic

/-! Reading JSON text. Beside the standard grammar the names `NaN`, `Infinity` and `-Infinity` are
    numbers. Of entries with one key the last value counts, at the place of the first. -/

namespace TableQuery

namespace Json

/-- Why text cannot be read. -/
inductive ReadError
  /-- The text is not JSON. -/
  | malformed
  /-- A whole number has more digits than are accepted. -/
  | tooLong (digits : Nat)
  deriving DecidableEq, Repr

def isSpace (c : Char) : Bool := c = ' ' || c = '\t' || c = '\n' || c = '\r'

def skipSpace (cs : List Char) : List Char := cs.dropWhile isSpace

/-- The value of a hexadecimal digit. -/
def hexValue? (c : Char) : Option Nat :=
  if '0' ≤ c ∧ c ≤ '9' then some (c.toNat - 48)
  else if 'a' ≤ c ∧ c ≤ 'f' then some (c.toNat - 87)
  else if 'A' ≤ c ∧ c ≤ 'F' then some (c.toNat - 55)
  else none

/-- Reads four hexadecimal digits at the start of text. -/
def takeUnit? : List Char → Option (Nat × List Char)
  | a :: b :: c :: d :: cs => do
    let a ← hexValue? a
    let b ← hexValue? b
    let c ← hexValue? c
    let d ← hexValue? d
    some (((a * 16 + b) * 16 + c) * 16 + d, cs)
  | _ => none

def isHighSurrogate (n : Nat) : Bool := 0xD800 ≤ n && n ≤ 0xDBFF

def isLowSurrogate (n : Nat) : Bool := 0xDC00 ≤ n && n ≤ 0xDFFF

/-- The character for a code unit; a surrogate on its own is shown by the replacement character. -/
def unitChar (n : Nat) : Char :=
  if isHighSurrogate n || isLowSurrogate n then '\uFFFD' else Char.ofNat n

/-- Reads what follows `\u`: a code unit, or a pair of surrogates that make one character. -/
def takeEscape? (cs : List Char) : Option (Char × List Char) := do
  let (high, rest) ← takeUnit? cs
  if isHighSurrogate high then
    match rest with
    | '\\' :: 'u' :: tail =>
      match takeUnit? tail with
      | some (low, tail) =>
        if isLowSurrogate low then
          some (Char.ofNat (0x10000 + (high - 0xD800) * 0x400 + (low - 0xDC00)), tail)
        else some (unitChar high, rest)
      | none => some (unitChar high, rest)
    | _ => some (unitChar high, rest)
  else some (unitChar high, rest)

/-- The character that a short escape stands for. -/
def shortEscape? (c : Char) : Option Char :=
  if c = '"' ∨ c = '\\' ∨ c = '/' then some c
  else if c = 'n' then some '\n'
  else if c = 'r' then some '\r'
  else if c = 't' then some '\t'
  else if c = 'b' then some '\x08'
  else if c = 'f' then some '\x0c'
  else none

/-- Reads the rest of a string whose opening quote has been read. Control characters are refused. -/
def takeString : Nat → List Char → Option (List Char × List Char)
  | 0, _ => none
  | _ + 1, [] => none
  | fuel + 1, c :: cs =>
    if c = '"' then some ([], cs)
    else if c = '\\' then
      match cs with
      | [] => none
      | e :: tail =>
        if e = 'u' then do
          let (c, tail) ← takeEscape? tail
          let (body, rest) ← takeString fuel tail
          some (c :: body, rest)
        else do
          let c ← shortEscape? e
          let (body, rest) ← takeString fuel tail
          some (c :: body, rest)
    else if c.toNat < 32 then none
    else do
      let (body, rest) ← takeString fuel cs
      some (c :: body, rest)

def natOf (ds : List Char) : Nat := ds.foldl (fun n c => n * 10 + (c.toNat - 48)) 0

/-- The whole part of a number: a single zero, or digits that do not start with one. -/
def takeWhole (cs : List Char) : List Char × List Char :=
  match cs with
  | '0' :: rest => (['0'], rest)
  | cs => (cs.takeWhile Char.isDigit, cs.dropWhile Char.isDigit)

/-- The digits of a fraction with the point in front; a point without digits is not read. -/
def takeFractionDigits (cs : List Char) : List Char × List Char :=
  match cs with
  | '.' :: rest =>
    let ds := rest.takeWhile Char.isDigit
    if ds.isEmpty then ([], cs) else (ds, rest.dropWhile Char.isDigit)
  | cs => ([], cs)

/-- The exponent with its mark in front; a mark without digits is not read. -/
def takePower (cs : List Char) : Option Int × List Char :=
  match cs with
  | c :: rest =>
    if c = 'e' ∨ c = 'E' then
      let (negative, body) := takeSign rest
      let ds := body.takeWhile Char.isDigit
      if ds.isEmpty then (none, cs)
      else (some (if negative then -(natOf ds : Int) else natOf ds), body.dropWhile Char.isDigit)
    else (none, cs)
  | [] => (none, [])

/-- Reads a number. Without fraction and exponent it is a whole number, which may have at most so many digits
    if there is a limit. -/
def takeNumber (limit : Option Nat) (negative : Bool) (cs : List Char) :
    Except ReadError (Value × List Char) :=
  let (whole, rest) := takeWhole cs
  if whole.isEmpty then .error .malformed
  else
    let (fraction, rest) := takeFractionDigits rest
    let (power, rest) := takePower rest
    match fraction, power with
    | [], none =>
      if limit.any (· < whole.length) then .error (.tooLong whole.length)
      else .ok (.int (if negative then -(natOf whole : Int) else natOf whole), rest)
    | fraction, power =>
      .ok (.double (Double.ofScientific negative (natOf (whole ++ fraction))
        (power.getD 0 - fraction.length)), rest)

/-- Reads a name of a value at the start of text. -/
def takeName? : List Char → Option (Value × List Char)
  | 'n' :: 'u' :: 'l' :: 'l' :: cs => some (.null, cs)
  | 't' :: 'r' :: 'u' :: 'e' :: cs => some (.bool true, cs)
  | 'f' :: 'a' :: 'l' :: 's' :: 'e' :: cs => some (.bool false, cs)
  | 'N' :: 'a' :: 'N' :: cs => some (.double .nan, cs)
  | 'I' :: 'n' :: 'f' :: 'i' :: 'n' :: 'i' :: 't' :: 'y' :: cs => some (.double (.infinite false), cs)
  | '-' :: 'I' :: 'n' :: 'f' :: 'i' :: 'n' :: 'i' :: 't' :: 'y' :: cs =>
    some (.double (.infinite true), cs)
  | _ => none

section
variable (limit : Option Nat)

mutual

/-- Reads a value at the start of text. -/
def takeValue : Nat → List Char → Except ReadError (Value × List Char)
  | 0, _ => .error .malformed
  | fuel + 1, cs =>
    match cs with
    | '"' :: rest => match takeString (rest.length + 1) rest with
      | some (body, rest) => .ok (.text (String.ofList body), rest)
      | none => .error .malformed
    | '[' :: rest => match skipSpace rest with
      | ']' :: rest => .ok (.list [], rest)
      | rest => do
        let (items, rest) ← takeItems fuel rest
        .ok (.list items, rest)
    | '\x7b' :: rest => match skipSpace rest with
      | '\x7d' :: rest => .ok (.dict [], rest)
      | rest => do
        let (entries, rest) ← takeEntries fuel rest
        .ok (.dict (Row.ofList entries), rest)
    | cs => match takeName? cs with
      | some found => .ok found
      | none => match cs with
        | '-' :: rest => takeNumber limit true rest
        | cs => takeNumber limit false cs

/-- Reads the items of a list from the first one on, with the bracket that ends it. -/
def takeItems : Nat → List Char → Except ReadError (List Value × List Char)
  | 0, _ => .error .malformed
  | fuel + 1, cs => do
    let (item, rest) ← takeValue fuel cs
    match skipSpace rest with
    | ']' :: rest => .ok ([item], rest)
    | ',' :: rest => do
      let (items, rest) ← takeItems fuel (skipSpace rest)
      .ok (item :: items, rest)
    | _ => .error .malformed

/-- Reads the entries of an object from the first one on, with the brace that ends it. -/
def takeEntries : Nat → List Char → Except ReadError (List (String × Value) × List Char)
  | 0, _ => .error .malformed
  | fuel + 1, cs =>
    match cs with
    | '"' :: rest => match takeString (rest.length + 1) rest with
      | none => .error .malformed
      | some (key, rest) => match skipSpace rest with
        | ':' :: rest => do
          let (value, rest) ← takeValue fuel (skipSpace rest)
          match skipSpace rest with
          | '\x7d' :: rest => .ok ([(String.ofList key, value)], rest)
          | ',' :: rest => do
            let (entries, rest) ← takeEntries fuel (skipSpace rest)
            .ok ((String.ofList key, value) :: entries, rest)
          | _ => .error .malformed
        | _ => .error .malformed
    | _ => .error .malformed

end

/-- Reads text that holds one value and nothing else. Two steps a character are enough. -/
def readChars (cs : List Char) : Except ReadError Value := do
  let (value, rest) ← takeValue limit (2 * cs.length + 2) (skipSpace cs)
  if (skipSpace rest).isEmpty then .ok value else .error .malformed

/-- Reads a JSON text whose whole numbers may have at most so many digits, if there is a limit. -/
def readWithin (text : String) : Except ReadError Value := readChars limit text.toList

end

/-- Reads a JSON text. -/
def read (text : String) : Except ReadError Value := readWithin (some maxNumeralDigits) text

end Json

end TableQuery
