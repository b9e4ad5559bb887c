import TableQuery.Query.Name
import TableQuery.Value.Basic

/-! Column policies: which columns an operation may write. -/

namespace TableQuery

/-- The columns that may be written, and, for when there is no such list, those that may not. -/
structure ColumnPolicy where
  allowed : List String
  denied : List String
  deriving DecidableEq, Repr, Inhabited

namespace ColumnPolicy

/-- The policy that allows every column. -/
def everything : ColumnPolicy := ⟨[], []⟩

/-- A policy from lists of names. -/
def make (allowed denied : List Value) : Except QueryError ColumnPolicy := do
  let allowed ← Value.asNames "column" allowed
  let denied ← Value.asNames "column" denied
  .ok ⟨allowed, denied⟩

/-- Whether a column may be written. -/
def allows (p : ColumnPolicy) (column : String) : Bool :=
  if p.allowed.isEmpty then !p.denied.contains column else p.allowed.contains column

/-- The part of a row that may be written. The columns in `keep` always stay. -/
def apply (p : ColumnPolicy) (row : Row) (keep : List String) : Row :=
  row.filter fun (column, _) => keep.contains column || p.allows column

end ColumnPolicy

end TableQuery
