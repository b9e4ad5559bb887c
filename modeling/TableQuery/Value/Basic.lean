import TableQuery.Calendar.Basic
import TableQuery.Number.Decimal
import TableQuery.Value.Shape

/-! Values: what a query compares with, what a statement binds, and what a row holds. -/

namespace TableQuery

/-- A field of a model, as the entities of the model know it. -/
structure LayoutField where
  name : String
  /-- The column in which the field is stored. -/
  column : String
  /-- The key under which a dictionary made from an entity holds the field. -/
  key : String
  shape : Shape
  deriving BEq, Repr, Inhabited

/-- How an entity is laid out: its model, the fields of the model in order, and the fields it was given
    explicitly. -/
structure Layout where
  model : String
  fields : List LayoutField
  given : List String
  deriving BEq, Repr, Inhabited

namespace Layout

def field? (l : Layout) (name : String) : Option LayoutField := l.fields.find? fun f => f.name = name

/-- Field and column of every field, in field order. -/
def columns (l : Layout) : List (String × String) := l.fields.map fun f => (f.name, f.column)

/-- The column of a field; a name that is no field stands for itself. -/
def columnOf (l : Layout) (field : String) : String := ((l.field? field).map (·.column)).getD field

/-- The key of a field; a name that is no field stands for itself. -/
def keyOf (l : Layout) (field : String) : String := ((l.field? field).map (·.key)).getD field

/-- The shape of a field. -/
def shapeOf (l : Layout) (field : String) : Shape := ((l.field? field).map (·.shape)).getD .any

end Layout

/-- A value of any kind. -/
inductive Value
  | null
  | bool (b : Bool)
  | int (n : Int)
  | double (x : Double)
  | decimal (d : Decimal)
  | text (s : String)
  | bytes (bs : List UInt8)
  | date (d : Date)
  | clock (c : Clock)
  | instant (i : Instant)
  | uuid (s : String)
  | list (xs : List Value)
  | tuple (xs : List Value)
  | set (frozen : Bool) (xs : List Value)
  /-- Keys and values in insertion order. -/
  | dict (entries : List (String × Value))
  /-- A sequence that stands for as many placeholders as it has members. -/
  | members (xs : List Value)
  /-- A named constant of an enumeration, with the value it stands for. -/
  | enum (kind name : String) (v : Value)
  /-- A record with named fields, of a type without a model. -/
  | record (kind : String) (fields : List (String × Value))
  /-- A bag of attributes, of no type of its own. -/
  | bag (attributes : List (String × Value))
  /-- An instance of a model: field names with their values, absent fields left out. -/
  | entity (layout : Layout) (values : List (String × Value))
  /-- A model itself. -/
  | model (name : String)
  deriving BEq, Repr, Inhabited

/-- A row: column names with their values, in column order. -/
abbrev Row := List (String × Value)

namespace Value

/-- The name of the kind of a value, as messages show it. -/
def kindName : Value → String
  | .null => "NoneType"
  | .bool _ => "bool"
  | .int _ => "int"
  | .double _ => "float"
  | .decimal _ => "Decimal"
  | .text _ => "str"
  | .bytes _ => "bytes"
  | .date _ => "date"
  | .clock _ => "time"
  | .instant _ => "datetime"
  | .uuid _ => "UUID"
  | .list _ => "list"
  | .tuple _ => "tuple"
  | .set frozen _ => if frozen then "frozenset" else "set"
  | .dict _ => "dict"
  | .members _ => "InValues"
  | .enum kind _ _ => kind
  | .record kind _ => kind
  | .bag _ => "SimpleNamespace"
  | .entity layout _ => layout.model
  | .model _ => "ModelMetaclass"

/-- The name of the kind of a value with the place it belongs to, as some messages show it. -/
def fullKindName : Value → String
  | .decimal _ => "decimal.Decimal"
  | .date _ => "datetime.date"
  | .clock _ => "datetime.time"
  | .instant _ => "datetime.datetime"
  | .bag _ => "types.SimpleNamespace"
  | v => v.kindName

def isNull : Value → Bool
  | .null => true
  | _ => false

/-- Whether a value holds nothing to search for: null or the empty text. -/
def isBlankValue : Value → Bool
  | .null => true
  | .text s => s.isEmpty
  | _ => false

/-- Whether a value is a single value: null, a number, text, bytes, a date, a time or an identifier. -/
def isScalar : Value → Bool
  | .null | .bool _ | .int _ | .double _ | .decimal _ | .text _ | .bytes _ | .date _ | .clock _
  | .instant _ | .uuid _ => true
  | _ => false

/-- The items of a list, tuple or set. -/
def items? : Value → Option (List Value)
  | .list xs => some xs
  | .tuple xs => some xs
  | .set _ xs => some xs
  | _ => none

/-- Whether a value is the zero of its kind: null, false, a zero number, or an empty text or
    collection. -/
def isZero : Value → Bool
  | .null => true
  | .bool b => !b
  | .int n => n = 0
  | .double x => x.isZero
  | .decimal d => d.isZero
  | .text s => s.isEmpty
  | .bytes bs => bs.isEmpty
  | .list xs => xs.isEmpty
  | .tuple xs => xs.isEmpty
  | .set _ xs => xs.isEmpty
  | .dict es => es.isEmpty
  | _ => false

/-- Whether a value counts as absent where a default may stand in: a zero value of a kind that has one.
    Every other value counts as present. -/
def isFalsy (v : Value) : Bool := v.isZero

end Value

/-! ### Rows -/

namespace Row

/-- The value of a column. -/
def get? (row : Row) (column : String) : Option Value := List.lookup column row

/-- The value of a column, null when there is none. -/
def getD (row : Row) (column : String) : Value := (get? row column).getD .null

def hasColumn (row : Row) (column : String) : Bool := (get? row column).isSome

/-- Sets a column: in place if the row has it, at the end otherwise. -/
def put (row : Row) (column : String) (v : Value) : Row :=
  match row with
  | [] => [(column, v)]
  | (c, old) :: rest => if c = column then (c, v) :: rest else (c, old) :: put rest column v

/-- Takes a column out. -/
def erase (row : Row) (column : String) : Row := row.filter fun (c, _) => c ≠ column

/-- A row in which each column stands at the place of its first occurrence with the value of its
    last. -/
def ofList (entries : List (String × Value)) : Row :=
  entries.foldl (fun row (c, v) => put row c v) []

def columns (row : Row) : List String := row.map Prod.fst

end Row

end TableQuery
