import TableQuery.Failure
import TableQuery.Query.Basic

/-! Conditions and queries from the arguments of a call. A call with too few or too many arguments, or with
    one that is not known, is refused. -/

namespace TableQuery

/-- A condition from a field, and perhaps a value and an operator. -/
def Condition.ofArguments (given : List Value) : Outcome Condition := do
  Failure.checkArguments "Condition.__init__" "field" 2 4 given
  let argument (i : Nat) (standard : Value) : Value := (given[i]?).getD standard
  (Condition.make (argument 0 .null) (argument 1 .null) (argument 2 Condition.defaultOperator)).mapError
    .query

namespace Query

/-- The condition that a field, by default `id`, equals the value in front of it, as a query. -/
def byArguments (given : List Value) : Outcome Query := do
  Failure.checkArguments "Query.by_id" "id_value" 2 3 given
  (Query.byId ((given[0]?).getD .null) ((given[1]?).getD (.text "id"))).mapError .query

/-- The names of the parts of a query. -/
def partNames : List String :=
  ["filter", "search", "order_by", "limit", "page", "page_size", "required", "include"]

/-- A query from parts by name. -/
def ofNamed (given : List (String × Value)) : Outcome Query :=
  match given.find? fun (name, _) => !partNames.contains name with
  | some (name, _) => .error (.misuse (.unknownArgument "Query.__init__" name))
  | none => (Query.make (Query.Parts.ofEntries given)).mapError .query

end Query

end TableQuery
