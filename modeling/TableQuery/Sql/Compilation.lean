import TableQuery.Query.Basic
import TableQuery.Sql.Dialect
import TableQuery.Sql.Predicate
import TableQuery.Value.Key

/-! Compilation: the conditions and required fields of a query become a predicate. Names are checked and
    quoted; values are only ever bound. -/

namespace TableQuery

/-- What compilation depends on: the dialect, and the fields that are tested even when there is nothing
    to search for. -/
structure Compiler where
  dialect : Dialect
  emptyValueFields : List String
  deriving Repr, Inhabited

namespace Compiler

/-- Carries an error of the query over. -/
def ofQuery {α : Type} (r : Except QueryError α) : Outcome α := r.mapError .query

/-! ### Checks -/

/-- Refuses a query with a required field that no condition tests. A value that cannot be a key cannot
    be looked for, except a set, which is looked for as a frozen one. -/
def checkRequired (q : Query) : Outcome Unit :=
  q.required.forM fun name =>
    match name with
    | .text s =>
      if q.searchFields.contains s then .ok () else .error (.query (.missingRequired name))
    | .set .. => .error (.query (.missingRequired name))
    | v => do
      let v ← v.asKey
      .error (.query (.missingRequired v))

/-- Refuses values that are no names. -/
def checkNames (role : String) (vs : List Value) : Outcome Unit :=
  ofQuery (vs.forM fun v => (v.asName role).map fun _ => ())

/-- Refuses a query with anything in it that could not be written into a statement. -/
def validate (q : Query) : Outcome Unit := do
  checkRequired q
  checkNames "filter field" q.filter
  checkNames "required field" q.required
  checkNames "search field" (q.searchFields.map .text)
  checkNames "order field" (q.orderBy.map OrderBy.field)
  ofQuery (q.relations.forM fun v => v.asIncludePath.map fun _ => ())

/-! ### Conditions -/

/-- Whether a condition is left out: there is nothing to search for, and its field is not one that is
    tested nevertheless. -/
def isSkipped (c : Compiler) (cond : Condition) : Bool :=
  !cond.operator.isNullCheck && cond.value.isBlankValue && !c.emptyValueFields.contains cond.field

/-- The two ends of a range. -/
def rangeEnds (v : Value) : Outcome (Value × Value) :=
  match v with
  | .tuple [low, high] => .ok (low, high)
  | .null => .error (.misuse .rangeOfNull)
  | _ => .error (.misuse .rangeOfEmptyText)

/-- A pattern that finds text anywhere, unless the text is a pattern already. -/
def patternAnywhere (text : String) : String :=
  if text.toList.contains '%' then text else "%" ++ text ++ "%"

/-- The predicate of one condition, without regard to whether it is left out. -/
def test (c : Compiler) (cond : Condition) : Outcome Predicate :=
  let column := c.dialect.quote cond.field
  let spelling := cond.operator.spelling
  let compare (v : Value) : Outcome Predicate := .ok ⟨column ++ " " ++ spelling ++ " ?", [v]⟩
  let matching (keyword pattern : String) : Outcome Predicate :=
    .ok ⟨column ++ " " ++ keyword ++ " ?", [.text pattern]⟩
  let member (nothing : String) : Outcome Predicate :=
    let items := match cond.value with
      | .tuple xs => xs
      | v => [v]
    if items.isEmpty then .ok ⟨nothing, []⟩
    else .ok ⟨column ++ " " ++ spelling ++ " (?)", [.members items]⟩
  let range : Outcome Predicate := do
    let (low, high) ← rangeEnds cond.value
    .ok ⟨column ++ " " ++ spelling ++ " ? AND ?", [low, high]⟩
  match cond.operator with
  | .isNull | .isNotNull => .ok ⟨column ++ " " ++ spelling, []⟩
  | .isIn => member "1=0"
  | .notIn => member "1=1"
  | .between | .notBetween => range
  | .like | .notLike => matching spelling (patternAnywhere cond.value.display)
  | .leftLike => matching "LIKE" ("%" ++ cond.value.display)
  | .rightLike => matching "LIKE" (cond.value.display ++ "%")
  | .eq | .ne | .neAlt | .gt | .gte | .lt | .lte => compare cond.value

/-- The predicate of one condition; a condition that is left out does not restrict anything. -/
def condition (c : Compiler) (cond : Condition) : Outcome Predicate := do
  let _ ← ofQuery ((Value.text cond.field).asName "search field")
  if c.isSkipped cond then .ok .none else c.test cond

/-- The predicate of a group, in parentheses. -/
def group (c : Compiler) (g : Group) : Outcome Predicate := do
  let tests ← g.conditions.mapM c.condition
  .ok (Predicate.join tests g.connective.spelling).grouped

/-- The predicate that all groups hold. -/
def search (c : Compiler) (groups : List Group) : Outcome Predicate := do
  let parts ← groups.mapM c.group
  .ok (Predicate.all parts)

/-- The predicate that required fields hold something. -/
def required (c : Compiler) (names : List Value) : Outcome Predicate := do
  let columns ← ofQuery (Value.asNames "required field" names)
  .ok (Predicate.all (columns.map fun n => ⟨c.dialect.notBlank (c.dialect.quote n), []⟩))

/-- The predicate of a query. -/
def predicate (c : Compiler) (q : Query) : Outcome Predicate := do
  checkRequired q
  let search ← c.search q.search
  let required ← c.required q.required
  .ok (Predicate.all [search, required])

end Compiler

end TableQuery
