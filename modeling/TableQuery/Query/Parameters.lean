import TableQuery.Json.Reader
import TableQuery.Query.Basic

/-! Queries from the parameters of a query string. Columns, required fields and members of sequences are
    separated by commas; search items, orders and include paths by bars; the parts of an item by
    colons. A `query` parameter holds a wire form in JSON and takes precedence over all others. -/

namespace TableQuery

/-- Why parameters do not make a query. -/
inductive ParameterError
  | query (e : QueryError)
  /-- A number in the JSON text has more digits than are accepted. -/
  | tooLong (digits : Nat)
  deriving Repr

namespace Query

/-- The text of the first of the named parameters that holds something. Of a list the last item
    counts. -/
def parameter? (params : List (String × Value)) (names : List String) : Option String :=
  names.findSome? fun name =>
    let v := Row.getD params name
    let v := match v with
      | .list xs => xs.getLast?.getD .null
      | .tuple xs => xs.getLast?.getD .null
      | v => v
    if v.isBlankValue then none else some v.display

/-- A parameter that is a whole number. -/
def integerParameter (params : List (String × Value)) (name : String) : Except QueryError Value :=
  match parameter? params [name] with
  | none => .ok .null
  | some raw => match readInt raw.toList with
    | .ok n => .ok (.int n)
    | .error _ => .error (.notInteger name raw)

/-- The trimmed pieces between separators that hold something. -/
def pieces (sep : Char) (raw : Option String) : List String :=
  match raw with
  | none => []
  | some raw => ((cutText sep raw).map trimText).filter fun s => !s.isEmpty

/-- The value of a search item: trimmed members between commas if the operator takes a sequence, the
    text itself otherwise. -/
def itemValue (op : Operator) (text : String) : Value :=
  if op.takesSequence then
    if text.isEmpty then .list [] else .list ((cutText ',' text).map fun s => .text (trimText s))
  else .text text

/-- Reads a search item `field:value` or `field:value:operator`. A last part that spells no operator
    belongs to the value. -/
def conditionOfItem (item : String) : Except QueryError Condition :=
  match cutText ':' item with
  | field :: part :: rest =>
    let parts := part :: rest
    let last := parts.getLast?.getD ""
    match Operator.ofSpelling? (canonicalSpelling last), rest with
    | some op, _ :: _ =>
      Condition.make (.text field) (itemValue op (joinWith ":" parts.dropLast)) (.text op.spelling)
    | _, _ => Condition.make (.text field) (.text (joinWith ":" parts)) Condition.defaultOperator
  | _ => .error (.searchItem item)

/-- Reads an order item `field` or `field:direction`. -/
def orderOfItem (item : String) : Except QueryError OrderBy := do
  let (field, rest) := splitFirst ':' item
  let direction := rest.getD ""
  let direction ← Direction.ofValue (.text (if direction.isEmpty then "asc" else direction))
  .ok ⟨.text field, direction⟩

/-- A query from parameters other than `query`. -/
def ofPlainParameters (params : List (String × Value)) : Except QueryError Query := do
  let conditions ← (pieces '|' (parameter? params ["search"])).mapM conditionOfItem
  let orderBy ← (pieces '|' (parameter? params ["orderby", "order_by"])).mapM orderOfItem
  let limit ← integerParameter params "limit"
  let page ← integerParameter params "page"
  let pageSize ← integerParameter params "page_size"
  let limit ← countOf "limit" limit
  let page ← countOf "page" page
  let pageSize ← countOf "page_size" pageSize
  .ok {
    filter := (pieces ',' (parameter? params ["filter"])).map .text
    search := if conditions.isEmpty then [] else [⟨conditions, .and⟩]
    orderBy
    limit
    page
    pageSize
    required := (pieces ',' (parameter? params ["required"])).map .text
    relations := (pieces '|' (parameter? params ["include"])).map .text }

/-- A query from parameters, under a limit for the digits of whole numbers in JSON text if there is one. -/
def ofParametersWithin (limit : Option Nat) (params : List (String × Value)) : Except ParameterError Query :=
  match parameter? params ["query"] with
  | none => (ofPlainParameters params).mapError .query
  | some raw => match Json.readWithin limit raw with
    | .ok wire => (ofWire wire).mapError .query
    | .error .malformed => .error (.query .notJson)
    | .error (.tooLong digits) => .error (.tooLong digits)

/-- A query from parameters. -/
def ofParameters (params : List (String × Value)) : Except ParameterError Query :=
  ofParametersWithin (some maxNumeralDigits) params

end Query

end TableQuery
