import TableQuery.Calendar.Reader
import TableQuery.Json.Reader
import TableQuery.Model.Validation

/-! Tagged JSON: JSON cannot tell all kinds of values apart, so a value of a kind that it lacks is written
    as an object that names the kind under `$` and holds the value under `v`. -/

namespace TableQuery

namespace Tagged

/-- An object that names a kind. -/
def object (kind : String) (v : Value) : Value := .dict [("$", .text kind), ("v", v)]

/-- Bytes as hexadecimal digits. -/
def hexOfBytes (bs : List UInt8) : String := String.ofList (bs.flatMap fun b => hexDigits 2 b.toNat)

/-- The bytes that hexadecimal digits write. -/
def bytesOfHex : List Char → List UInt8
  | a :: b :: rest =>
    let digit (c : Char) : Nat := (Json.hexValue? c).getD 0
    UInt8.ofNat (digit a * 16 + digit b) :: bytesOfHex rest
  | _ => []

/-- Texts with one more among them, where it belongs in their order. -/
def insertText (s : String) : List String → List String
  | [] => [s]
  | t :: ts => if s ≤ t then s :: t :: ts else t :: insertText s ts

/-- Texts in order. -/
def sortTexts (ss : List String) : List String := ss.foldr insertText []

mutual

/-- The tagged form of a value. Of an object only the kind is written. -/
def write : Value → Value
  | .double x => object "float" (.text x.text)
  | .decimal d => object "decimal" (.text d.text)
  | .bytes bs => object "bytes" (.text (hexOfBytes bs))
  | .date d => object "date" (.text d.text)
  | .clock c => object "time" (.text c.text)
  | .instant i => object "datetime" (.text i.text)
  | .uuid s => object "uuid" (.text s)
  | .list xs => .list (writeItems xs)
  | .tuple xs => object "tuple" (.list (writeItems xs))
  | .set _ xs => object "set" (.list (writeItems xs))
  | .dict es => .dict (writeEntries es)
  | .members xs => object "in" (.list (writeItems xs))
  | .enum _ _ v => object "enum" (write v)
  | .record kind _ => object "object" (.text kind)
  | .bag es => object "object" (.text (Value.bag es).kindName)
  | .model name => object "type" (.text name)
  | .entity layout fs =>
    .dict [("$", .text "model"), ("m", .text layout.model), ("v", .dict (writeEntries fs)),
           ("set", .list ((sortTexts layout.given).map .text))]
  | v => v

def writeItems : List Value → List Value
  | [] => []
  | x :: xs => write x :: writeItems xs

def writeEntries : List (String × Value) → List (String × Value)
  | [] => []
  | (k, v) :: es => (k, write v) :: writeEntries es

end

/-- The text of a value that is text. -/
def text? : Value → Option String
  | .text s => some s
  | _ => none

/-- The text of a value, empty if it is no text. -/
def textOf (v : Value) : String := (text? v).getD ""

/-- The digits of an identifier in groups of eight, four, four, four and twelve. -/
def uuidGroups (digits : List Char) : List (List Char) :=
  [digits.take 8, (digits.drop 8).take 4, (digits.drop 12).take 4, (digits.drop 16).take 4,
   digits.drop 20]

/-- An identifier in its usual form: 32 hexadecimal digits in groups with hyphens between them. It may be
    given without hyphens, in braces or behind `urn:uuid:`, and in capital letters. -/
def uuidText (s : String) : String :=
  let digits := (s.toLower.replace "urn:" "").replace "uuid:" ""
  let digits := digits.toList.filter fun c => (Json.hexValue? c).isSome
  if digits.length = 32 then joinWith "-" ((uuidGroups digits).map String.ofList) else s

/-- A value of a single kind from its text; text that writes no such value gives null. -/
def readScalar (kind s : String) : Option Value :=
  match kind with
  | "float" => some (((readDouble? s.toList).map .double).getD .null)
  | "decimal" => some (((Decimal.ofText? s).map .decimal).getD .null)
  | "date" => some (((Date.ofText? s).map .date).getD .null)
  | "datetime" => some (((Instant.ofText? s).map .instant).getD .null)
  | "time" => some (((Clock.ofText? s).map .clock).getD .null)
  | "uuid" => some (.uuid (uuidText s))
  | "bytes" => some (.bytes (bytesOfHex (s.toList.filter fun c => !isBlank c)))
  | "type" => some (.model s)
  | _ => none

/-- A value of a kind that holds others, from what it holds; `models` knows the models by name. The tagged
    form names neither enumerations nor records, so they get names that stand for any. -/
def readHolder (models : String → Model) (kind model : String) (held : Value) : Outcome Value :=
  match kind, held with
  | "tuple", .list xs => .ok (.tuple xs)
  | "set", .list xs => .ok (.set false xs)
  | "frozenset", .list xs => .ok (.set true xs)
  | "in", .list xs => .ok (.members xs)
  | "enum", v => .ok (.enum "E" "X" v)
  | "dataclass", .dict es => .ok (.record "D" es)
  | "object", .dict es => .ok (.bag es)
  | "model", .dict es => (models model).validate es
  | _, v => .ok v

mutual

/-- The value of a tagged form. -/
def read (models : String → Model) : Value → Outcome Value
  | .list xs => (readItems models xs).map .list
  | .dict es => do
    let fields ← readEntries models es
    match List.lookup "$" es with
    | some (.text kind) =>
      match readScalar kind (textOf (Row.getD es "v")) with
      | some v => .ok v
      | none => readHolder models kind (textOf (Row.getD es "m")) (Row.getD fields "v")
    | _ => .ok (.dict fields)
  | v => .ok v

def readItems (models : String → Model) : List Value → Outcome (List Value)
  | [] => .ok []
  | x :: xs => do
    let v ← read models x
    let vs ← readItems models xs
    .ok (v :: vs)

def readEntries (models : String → Model) :
    List (String × Value) → Outcome (List (String × Value))
  | [] => .ok []
  | (k, x) :: es => do
    let v ← read models x
    let rest ← readEntries models es
    .ok ((k, v) :: rest)

end

end Tagged

end TableQuery
