import TableQuery.Number.Double

/-! Settings: the bounds and defaults that apply to every query. -/

namespace TableQuery

/-- Bounds and defaults. Pages and sizes count from one. -/
structure Settings where
  defaultPage : Nat
  defaultPageSize : Nat
  maxLimit : Nat
  /-- Fields that are searched even when there is nothing to search for. -/
  emptyValueFields : List String
  /-- Seconds that a statement may take when the caller says nothing. -/
  defaultTimeout : Option Double
  logSql : Bool
  deriving DecidableEq, Repr

namespace Settings

/-- The settings where nothing is set. -/
def standard : Settings := ⟨1, 10, 100, ["id"], none, false⟩

end Settings

end TableQuery
