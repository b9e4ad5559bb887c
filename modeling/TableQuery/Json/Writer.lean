import TableQuery.Misuse
import TableQuery.Number.Numeral
import TableQuery.Number.Shortest
import TableQuery.Text.Pieces
import TableQuery.Text.Quoted
import TableQuery.Value.Basic

/-! JSON text of values. The text is ASCII; `, ` stands between items and `: ` between a key and its
    value. -/

namespace TableQuery

namespace Json

/-- Why a value cannot be written. -/
inductive WriteError
  /-- A part of a value is of a kind that has no JSON text. -/
  | noText (kind : String)
  /-- A whole number has more digits than are written. -/
  | tooLong
  deriving DecidableEq, Repr

/-- The misuse that it is to write such a value. -/
def WriteError.misuse : WriteError → Misuse
  | .noText kind => .noJson kind
  | .tooLong => .longNumeral

/-- The escape of one code unit of sixteen bits. -/
def unitEscape (n : Nat) : List Char := '\\' :: 'u' :: hexDigits 4 n

/-- A character between quotes. A character beyond sixteen bits is written as a pair of surrogates. -/
def escapeChar (c : Char) : List Char :=
  if c = '"' then ['\\', '"']
  else if c = '\\' then ['\\', '\\']
  else if c = '\n' then ['\\', 'n']
  else if c = '\r' then ['\\', 'r']
  else if c = '\t' then ['\\', 't']
  else if c = '\x0c' then ['\\', 'f']
  else if c = '\x08' then ['\\', 'b']
  else
    let n := c.toNat
    if 32 ≤ n ∧ n < 127 then [c]
    else if n < 0x10000 then unitEscape n
    else unitEscape (0xD800 + (n - 0x10000) / 0x400) ++ unitEscape (0xDC00 + (n - 0x10000) % 0x400)

/-- Text as a JSON string. -/
def writeText (s : String) : List Char := '"' :: s.toList.flatMap escapeChar ++ ['"']

/-- A floating-point number; what is not a finite number is written by name. -/
def writeDouble (x : Double) : List Char :=
  match x with
  | .nan => "NaN".toList
  | .infinite negative => if negative then "-Infinity".toList else "Infinity".toList
  | x => x.text.toList

section
variable (limit : Option Nat)

mutual

/-- The JSON text of a value, in which whole numbers may have at most so many digits if there is a limit. -/
def writeChars : Value → Except WriteError (List Char)
  | .null => .ok "null".toList
  | .bool b => .ok (if b then "true".toList else "false".toList)
  | .int n => if limit.any (· < digitCount n.natAbs) then .error .tooLong else .ok (intText n).toList
  | .double x => .ok (writeDouble x)
  | .text s => .ok (writeText s)
  | .list xs => do
    let body ← writeItems xs
    .ok ('[' :: body ++ [']'])
  | .tuple xs => do
    let body ← writeItems xs
    .ok ('[' :: body ++ [']'])
  | .dict es => do
    let body ← writeEntries es
    .ok ('\x7b' :: body ++ ['\x7d'])
  | v => .error (.noText v.kindName)

/-- Items with `, ` between them. -/
def writeItems : List Value → Except WriteError (List Char)
  | [] => .ok []
  | x :: xs => do
    let here ← writeChars x
    let rest ← writeItems xs
    .ok (if xs.isEmpty then here else here ++ ',' :: ' ' :: rest)

/-- Entries with `, ` between them and `: ` after each key. -/
def writeEntries : List (String × Value) → Except WriteError (List Char)
  | [] => .ok []
  | (k, v) :: es => do
    let here ← writeChars v
    let rest ← writeEntries es
    let entry := writeText k ++ ':' :: ' ' :: here
    .ok (if es.isEmpty then entry else entry ++ ',' :: ' ' :: rest)

end

/-- The JSON text of a value whose whole numbers keep to a limit of digits, if there is one. -/
def writeWithin (v : Value) : Except WriteError String := (writeChars limit v).map String.ofList

end

/-- The JSON text of a value. -/
def write (v : Value) : Except WriteError String := writeWithin (some maxNumeralDigits) v

end Json

end TableQuery
