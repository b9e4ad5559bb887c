import TableQuery.Selection.Reading
import TableQuery.Writing.ColumnPolicy
import TableQuery.Writing.Uniqueness

/-! Writers: a selection together with the columns that may be written and the rules that a written row
    has to keep. -/

namespace TableQuery

/-- What is needed to insert and update rows. -/
structure Writer where
  selection : Selection
  columns : ColumnPolicy
  rules : List UniqueRule
  deriving Repr

namespace Writer

/-- A writer that may write all columns and has no rules to keep. -/
def ofSelection (s : Selection) : Writer := ⟨s, .everything, []⟩

/-- The writer with a list of the columns that may be written. -/
def allowing (w : Writer) (columns : List Value) : Except QueryError Writer := do
  let p ← ColumnPolicy.make columns (w.columns.denied.map .text)
  .ok { w with columns := p }

/-- The writer with a list of the columns that may not be written. -/
def denying (w : Writer) (columns : List Value) : Except QueryError Writer := do
  let p ← ColumnPolicy.make (w.columns.allowed.map .text) columns
  .ok { w with columns := p }

/-- The writer with further rules. -/
def withRules (w : Writer) (rules : List UniqueRule) : Writer := { w with rules := w.rules ++ rules }

/-- The writer with a rule for each of the fields. -/
def unique (w : Writer) (fields : List Value) : Outcome Writer := do
  let rules ← UniqueRule.listOf (.tuple fields) (.tuple [])
  .ok (w.withRules rules)

/-- The writer with one rule for all of the fields together. -/
def uniqueTogether (w : Writer) (fields : List Value) : Outcome Writer := do
  let rules ← UniqueRule.listOf (.tuple []) (.list [.tuple fields])
  .ok (w.withRules rules)

/-- The check of the rules. -/
def uniqueness (w : Writer) : Uniqueness :=
  ⟨w.selection.dialect, w.selection.table, w.selection.model, w.rules⟩

/-- The selection of all rows of the table, by which written rows are read back. -/
def reader (w : Writer) : Selection :=
  { w.selection with query := Query.empty, raw := [], hidesDeleted := true }

/-- A row without the names under which related rows are attached, which are no columns. -/
def withoutRelations (w : Writer) (row : Row) : Row :=
  w.selection.table.relations.foldl (fun row (link, _) => Row.erase row link.name) row

/-- A row without a column, if there is one to take out. -/
def without (row : Row) (column : Option String) : Row :=
  match column with
  | some c => row.erase c
  | none => row

end Writer

end TableQuery
