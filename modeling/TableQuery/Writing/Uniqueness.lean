import TableQuery.Model.Rows
import TableQuery.Program
import TableQuery.Table
import TableQuery.Value.Numeric

/-! Uniqueness: before a row is written, rows that already hold the same values are counted. A rule
    names one field, or several that are unique only together. -/

namespace TableQuery

/-- The fields whose values no two rows may share. -/
structure UniqueRule where
  fields : List String
  deriving DecidableEq, Repr, Inhabited

namespace UniqueRule

/-- A rule from names, of which there has to be one at least. -/
def make (fields : List Value) : Outcome UniqueRule :=
  if fields.isEmpty then .error (.misuse .emptyRule)
  else match Value.asNames "unique field" fields with
    | .ok names => .ok ⟨names⟩
    | .error e => .error (.query e)

/-- The fields with commas between them. -/
def label (r : UniqueRule) : String := joinWith "," r.fields

/-- The parts that a value falls into when it stands for a list of names: text falls into its
    characters, a dictionary into its keys. -/
def parts (v : Value) : Outcome (List Value) :=
  match v with
  | .list xs | .tuple xs | .set _ xs => .ok xs
  | .text s => .ok (s.toList.map fun c => .text (String.singleton c))
  | .bytes bs => .ok (bs.map fun b => .int b.toNat)
  | .dict es => .ok (es.map fun (k, _) => .text k)
  | v => .error (.misuse (.notIterable v.fullKindName))

/-- One rule for each single field, and then one for each list of fields. -/
def listOf (single together : Value) : Outcome (List UniqueRule) := do
  let names ← parts single
  let rules ← names.mapM fun name => make [name]
  let groups ← parts together
  let more ← groups.mapM fun group => do make (← parts group)
  .ok (rules ++ more)

end UniqueRule

/-- The check of rules on one table. -/
structure Uniqueness where
  dialect : Dialect
  table : Table
  /-- The model by which fields of a dictionary are brought to columns. -/
  model : Option Model
  rules : List UniqueRule
  deriving Repr

namespace Uniqueness

/-- The column of a field of a record. -/
def columnOf (u : Uniqueness) (record : Value) (field : String) : String :=
  match record with
  | .entity layout _ => layout.columnOf field
  | _ => Model.columnFor u.model field

/-- What a record holds in a field: under the name of the field, else under its column. -/
def lookup? (u : Uniqueness) (record : Value) (field : String) : Option Value :=
  match record.lookup? field with
  | some v => some v
  | none =>
    let column := u.columnOf record field
    if column = field then none else record.lookup? column

/-- Column and value of each field of a rule, if the record holds something in all of them. -/
def pairs? (u : Uniqueness) (record : Value) (rule : UniqueRule) : Option (List (String × Value)) :=
  rule.fields.mapM fun field =>
    match u.lookup? record field with
    | some v => if v.isZero then none else some (u.columnOf record field, v)
    | none => none

/-- The rules that apply to a record, with the columns and values to look for. -/
def enforced (u : Uniqueness) (record : Value) : List (UniqueRule × List (String × Value)) :=
  u.rules.filterMap fun rule => (u.pairs? record rule).map fun pairs => (rule, pairs)

/-- The rules that a record bears on: it holds something, be it zero, in one of their fields. -/
def touchedBy (u : Uniqueness) (record : Value) : Uniqueness :=
  { u with
    rules := u.rules.filter fun rule =>
      rule.fields.any fun field => (u.lookup? record field).isSome }

/-- The error that another row holds the values of a rule. -/
def duplicate (rule : UniqueRule) (pairs : List (String × Value)) : Failure :=
  let value := match pairs with
    | [(_, v)] => v
    | pairs => .tuple (pairs.map Prod.snd)
  .database (.make .duplicate (rule.label ++ " already exists") (.text rule.label) value) none

/-- The test that a column equals a value. -/
def equals (d : Dialect) (column : String) (v : Value) : Predicate :=
  ⟨d.quote column ++ " = ?", [v]⟩

/-- The test that a row does not have a given key; null is no key. -/
def otherThan (u : Uniqueness) (id : Value) : Predicate :=
  if id.isNull then .none else ⟨u.dialect.quote u.table.primaryKey ++ " != ?", [id]⟩

/-- The test that a row is outside of a predicate. Rows of which the predicate is unknown are
    outside. -/
def outside (p : Predicate) : Predicate :=
  if p.isNone then .none else ⟨"(CASE WHEN " ++ p.sql ++ " THEN 1 ELSE 0 END) = 0", p.params⟩

/-- The statement that counts the rows with the given values, apart from the row of a key and the rows
    of a predicate. -/
def probe (u : Uniqueness) (pairs : List (String × Value)) (excludedId : Value)
    (excluded : Predicate) : Statement :=
  let tests := pairs.map fun (column, v) => equals u.dialect column v
  let restriction := Predicate.all
    (tests ++ [u.otherThan excludedId, outside excluded, u.table.notDeleted u.dialect])
  ⟨"SELECT COUNT(*) FROM " ++ u.dialect.quote u.table.name ++ " WHERE " ++ restriction.sql,
   restriction.params⟩

/-- Asks for each of the given rules whether another row holds its values, and fails at the first that
    does. -/
def checkEach (u : Uniqueness) (excludedId : Value) (excluded : Predicate) (timeout : Value) :
    List (UniqueRule × List (String × Value)) → Program Unit
  | [] => Program.done ()
  | (rule, pairs) :: rest => do
    let v ← Program.fetchValue (u.probe pairs excludedId excluded) timeout
    let n ← Program.lift v.toCount
    if 0 < n then Program.fail (duplicate rule pairs)
    else checkEach u excludedId excluded timeout rest

/-- Checks the rules that apply to a record. -/
def check (u : Uniqueness) (record excludedId : Value) (excluded : Predicate) (timeout : Value) :
    Program Unit :=
  u.checkEach excludedId excluded timeout (u.enforced record)

end Uniqueness

end TableQuery
