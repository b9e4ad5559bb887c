import TableQuery.Query.Condition
import TableQuery.Query.Name
import TableQuery.Value.Same

/-! Queries: what to read, from which rows, in which order and how much of it; and their wire form. -/

namespace TableQuery

/-- A field to order by, and the direction. -/
structure OrderBy where
  field : Value
  direction : Direction
  deriving BEq, Repr, Inhabited

namespace OrderBy

/-- Reads an order from its wire form: a field, or a list of a field and perhaps a direction. -/
def ofWire (raw : Value) : Except QueryError OrderBy :=
  let ofItems (items : List Value) : Except QueryError OrderBy :=
    match items with
    | [field] => .ok ⟨field, .asc⟩
    | [field, direction] => do
      let direction ← Direction.ofValue direction
      .ok ⟨field, direction⟩
    | _ => .error .orderShape
  match raw with
  | .text _ => .ok ⟨raw, .asc⟩
  | .list items => ofItems items
  | .tuple items => ofItems items
  | _ => .error .orderShape

/-- The wire form: field and direction. -/
def toWire (o : OrderBy) : Value := .list [o.field, .text o.direction.spelling]

end OrderBy

/-- A query. It names the columns to read (none stands for all), groups of conditions that all have to
    hold, an order, how much to read, the fields that a condition has to test, and the relations to
    load. Absent counts stand for no bound; a count is never zero. -/
structure Query where
  filter : List Value
  search : List Group
  orderBy : List OrderBy
  limit : Option Nat
  page : Option Nat
  pageSize : Option Nat
  required : List Value
  relations : List Value
  deriving BEq, Repr, Inhabited

namespace Query

/-- The query that reads everything. -/
def empty : Query := ⟨[], [], [], none, none, none, [], []⟩

/-- The items of a part of a query: none for null, a single text as one item. -/
def itemsOf (part : String) (v : Value) : Except QueryError (List Value) :=
  match v with
  | .null => .ok []
  | .text _ => .ok [v]
  | .list xs => .ok xs
  | .tuple xs => .ok xs
  | v => .error (.notList part v.kindName)

/-- A count; zero stands for no bound. -/
def countOf (part : String) (v : Value) : Except QueryError (Option Nat) :=
  match v with
  | .null => .ok none
  | .int (.ofNat n) => .ok (if n = 0 then none else some n)
  | _ => .error (.notCount part)

/-- The parts that a query is made from, before they are checked. -/
structure Parts where
  filter : Value
  search : Value
  orderBy : Value
  limit : Value
  page : Value
  pageSize : Value
  required : Value
  relations : Value

/-- A query from its parts, checked in the order in which they are named. -/
def make (p : Parts) : Except QueryError Query := do
  let filter ← itemsOf "filter" p.filter
  let search ← (← itemsOf "search" p.search).mapM Group.ofWire
  let orderBy ← (← itemsOf "order_by" p.orderBy).mapM OrderBy.ofWire
  let limit ← countOf "limit" p.limit
  let page ← countOf "page" p.page
  let pageSize ← countOf "page_size" p.pageSize
  let required ← itemsOf "required" p.required
  let relations ← itemsOf "include" p.relations
  .ok ⟨filter, search, orderBy, limit, page, pageSize, required, relations⟩

/-- The parts that stand in an object under their wire names. -/
def Parts.ofEntries (entries : List (String × Value)) : Parts where
  filter := Row.getD entries "filter"
  search := Row.getD entries "search"
  orderBy := Row.getD entries "order_by"
  limit := Row.getD entries "limit"
  page := Row.getD entries "page"
  pageSize := Row.getD entries "page_size"
  required := Row.getD entries "required"
  relations := Row.getD entries "include"

/-- Reads a query from its wire form, an object; null stands for the empty query. The order may also
    stand under `orderby`. -/
def ofWire (raw : Value) : Except QueryError Query :=
  match raw with
  | .null => .ok empty
  | .dict entries =>
    let parts := Parts.ofEntries entries
    let orderBy := match parts.orderBy with
      | .null => Row.getD entries "orderby"
      | v => v
    make { parts with orderBy }
  | v => .error (.notObject v.kindName)

/-- A count under its wire name, if there is one. -/
def countEntry (part : String) (n : Option Nat) : List (String × Value) :=
  match n with
  | some n => [(part, .int n)]
  | none => []

/-- The wire form. -/
def toWire (q : Query) : Value :=
  .dict (
    [("filter", .list q.filter),
     ("search", .list (q.search.map Group.toWire)),
     ("order_by", .list (q.orderBy.map OrderBy.toWire)),
     ("required", .list q.required),
     ("include", .list q.relations)] ++
    countEntry "limit" q.limit ++ countEntry "page" q.page ++ countEntry "page_size" q.pageSize)

/-! ### Derived queries -/

/-- The fields that the conditions test, in order. -/
def searchFields (q : Query) : List String := q.search.flatMap Group.fields

/-- The query with more groups, which have to hold as well. -/
def withSearch (q : Query) (groups : List Group) : Query := { q with search := q.search ++ groups }

/-- Only the parts that bear on which rows match. -/
def forAggregate (q : Query) : Query :=
  { empty with filter := q.filter, search := q.search, required := q.required }

/-- One query on top of another: the groups of both have to hold, and the columns and required fields of
    the added one replace those of the first unless it names none. -/
def merge (q extra : Query) : Query :=
  { q with
    search := q.search ++ extra.search
    filter := if extra.filter.isEmpty then q.filter else extra.filter
    required := if extra.required.isEmpty then q.required else extra.required }

/-- The condition that a field equals a value, as a query. -/
def byId (id field : Value) : Except QueryError Query := do
  let c ← Condition.make field id Condition.defaultOperator
  .ok { empty with search := [⟨[c], .and⟩] }

/-- A query with nothing but groups of conditions. -/
def ofGroups (groups : List Value) : Except QueryError Query := do
  let search ← groups.mapM Group.ofWire
  .ok { empty with search }

/-- The columns to read, with further ones added that are not yet among them; none stands for all. -/
def columnsWith (q : Query) (extra : List Value) : List Value :=
  if q.filter.isEmpty then []
  else extra.foldl (fun cs c => if c.isAmong cs then cs else cs ++ [c]) q.filter

end Query

end TableQuery
