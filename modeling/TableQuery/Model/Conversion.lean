import TableQuery.Model.Rows
import TableQuery.Text.Case

/-! Conversion between models: fields are matched by name, then by column, then by name in snake case. -/

namespace TableQuery

/-- Writes an underscore between a small letter or digit and the capital after it. -/
def markCapitals : List Char → List Char
  | [] => []
  | [c] => [c]
  | a :: b :: cs =>
    let rest := markCapitals (b :: cs)
    if (a.isLower || a.isDigit) && b.isUpper then a :: '_' :: rest else a :: rest

/-- A name in snake case: underscores in front of inner capitals, and small letters throughout. -/
def snakeCase (s : String) : String := String.ofList (lower (markCapitals s.toList))

namespace Model

/-- The field with a given name in snake case; of several the last counts. -/
def fieldOfSnake? (m : Model) (snake : String) : Option String :=
  lastOf (m.fieldInfos.map fun f => (snakeCase f.name, f.name)) snake

/-- The field that takes what another model holds in a field and column. -/
def matching? (target : Model) (field column : String) : Option String :=
  if (target.columnOf? field).isSome then some field
  else match target.fieldOf? column with
    | some f => some f
    | none => target.fieldOfSnake? (snakeCase field)

/-- Source field and target field of all fields that match, in source order. -/
def fieldPairs (source : List (String × String)) (target : Model) : List (String × String) :=
  source.filterMap fun (field, column) => (target.matching? field column).map fun f => (field, f)

/-- An entity from a dictionary by field. -/
def validateByField (m : Model) (data : Row) : Outcome Value :=
  m.validate (Row.ofList (data.map fun (field, v) => ((m.columnOf? field).getD field, v)))

/-- An entity of a model from a record of another shape, by its matching fields. Of an entity the fields that
    match have to be there. -/
def convert (target : Model) (source : Value) : Outcome Value :=
  match source with
  | .dict es =>
    target.validateByField (Row.ofList (es.filterMap fun (key, v) =>
      (target.matching? key key).map fun f => (f, v)))
  | .entity layout fs => do
    let data ← (fieldPairs layout.columns target).mapM fun (field, f) =>
      match Row.get? fs field with
      | some v => .ok (f, v)
      | none => .error (.misuse (.noPart layout.model field))
    target.validateByField (Row.ofList data)
  | _ => target.validateByField []

/-- Converts a record, or each record of a list. -/
def convertAll (target : Model) (source : Value) : Outcome Value :=
  match source with
  | .list xs => (xs.mapM target.convert).map .list
  | v => target.convert v

end Model

end TableQuery
