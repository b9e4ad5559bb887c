import TableQuery.Failure
import TableQuery.Json.Reader
import TableQuery.Model.Validation
import TableQuery.Value.Key

/-! Rows and entities: JSON columns of a stored row are decoded, and the row becomes an entity. -/

namespace TableQuery

namespace Row

/-- A value of a JSON column: the value that its text denotes, or the value itself if it is not readable
    JSON text. Bytes have to be text. -/
def decodeColumn (v : Value) : Outcome Value :=
  let ofText (s : String) : Outcome Value :=
    match Json.read s with
    | .ok w => .ok w
    | .error .malformed => .ok v
    | .error (.tooLong digits) => .error (.misuse (.tooManyDigits digits))
  match v with
  | .text s => ofText s
  | .bytes bs => match textOfBytes? bs with
    | some s => ofText s
    | none => .error .undecodable
  | v => .ok v

/-- Whether a value is text that starts like a JSON container. -/
def looksLikeJson (v : Value) : Bool :=
  match v with
  | .text s => match s.toList with
    | c :: _ => c = '\x7b' || c = '['
    | [] => false
  | _ => false

/-- A row with its JSON columns decoded: those that the model declares as containers, or, without a
    model, all that look like JSON. -/
def decode (m : Option Model) (row : Row) : Outcome Row :=
  let eligible (column : String) (v : Value) : Bool :=
    match m with
    | some m => m.jsonColumns.contains column
    | none => looksLikeJson v
  row.mapM fun (column, v) => do
    let v ← if eligible column v then decodeColumn v else .ok v
    .ok (column, v)

/-- An entity from a decoded row. A row of which only some columns were read is not checked. -/
def toEntity (m : Model) (isPartial : Bool) (row : Row) : Outcome Value :=
  if isPartial then
    .ok (m.construct (Row.ofList (row.map fun (column, v) => ((m.fieldOf? column).getD column, v))))
  else m.validate row

end Row

namespace Value

/-- A set of values that have taken the place of others. They have to be able to serve as keys. -/
def setOf (frozen : Bool) (xs : List Value) : Outcome Value := do
  let xs ← xs.mapM asKey
  .ok (.set frozen xs)

mutual

/-- A value inside an entity, with the entities and records in it as dictionaries; `givenOnly` leaves out
    the fields of entities that were not given. -/
def plain (givenOnly : Bool) : Value → Outcome Value
  | .list xs => (plainItems givenOnly xs).map .list
  | .tuple xs => (plainItems givenOnly xs).map .tuple
  | .set frozen xs => do setOf frozen (← plainItems givenOnly xs)
  | .dict es => (plainEntries givenOnly es).map .dict
  | .members xs => (plainItems givenOnly xs).map fun xs => .dict [("items", .tuple xs)]
  | .record _ fs => (plainEntries givenOnly fs).map .dict
  | .entity layout fs => (plainFields givenOnly layout fs).map fun es => .dict (Row.ofList es)
  | v => .ok v

def plainItems (givenOnly : Bool) : List Value → Outcome (List Value)
  | [] => .ok []
  | x :: xs => do
    let v ← plain givenOnly x
    let vs ← plainItems givenOnly xs
    .ok (v :: vs)

def plainEntries (givenOnly : Bool) : List (String × Value) → Outcome (List (String × Value))
  | [] => .ok []
  | (k, x) :: es => do
    let v ← plain givenOnly x
    let rest ← plainEntries givenOnly es
    .ok ((k, v) :: rest)

/-- The fields of an entity by key. -/
def plainFields (givenOnly : Bool) (layout : Layout) :
    List (String × Value) → Outcome (List (String × Value))
  | [] => .ok []
  | (field, x) :: es =>
    if givenOnly && !layout.given.contains field then plainFields givenOnly layout es
    else do
      let v ← plain givenOnly x
      let rest ← plainFields givenOnly layout es
      .ok ((layout.keyOf field, v) :: rest)

end

/-- The columns and values of a record, which is an entity or a dictionary. -/
def toRow (givenOnly : Bool) (record : Value) : Outcome Row :=
  match record with
  | .entity layout fs => (plainFields givenOnly layout fs).map Row.ofList
  | .dict es => .ok es
  | v => .error (.misuse (.recordKind v.kindName))

/-- The parts that a value without a model has by name: the attributes of a record, and what a named
    constant, a date or a time is made up of. -/
def attributes : Value → List (String × Value)
  | .bag es | .record _ es => es
  | .members xs => [("items", .tuple xs)]
  | .enum _ name v => [("name", .text name), ("value", v)]
  | .date d => ofDay d
  | .clock c => ofTime c
  | .instant i => ofDay i.date ++ ofTime i.clock
  | _ => []
where
  ofDay (d : Date) : List (String × Value) :=
    [("year", .int d.year), ("month", .int d.month), ("day", .int d.day)]
  ofTime (c : Clock) : List (String × Value) :=
    [("hour", .int c.hour), ("minute", .int c.minute), ("second", .int c.second),
     ("microsecond", .int c.microsecond)]

/-- What a record holds under a name: a field of that name comes before a column of that name. -/
def lookup? (record : Value) (name : String) : Option Value :=
  match record with
  | .dict es => Row.get? es name
  | .entity layout fs =>
    if layout.columns.any (fun (field, _) => field = name) then Row.get? fs name
    else match Model.lastOf (layout.columns.map fun (field, column) => (column, field)) name with
      | some field => Row.get? fs field
      | none => none
  | v => Row.get? v.attributes name

end Value

end TableQuery
