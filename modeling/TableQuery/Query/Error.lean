import TableQuery.Value.Display

/-! What can be wrong with a query: found from the query alone, before any statement is made. -/

namespace TableQuery

/-- The families of query errors, which callers tell apart by their code. -/
inductive QueryError.Family
  | query
  | field
  | operator
  | condition
  | missingRequired
  deriving DecidableEq, Repr

namespace QueryError.Family

def all : List Family := [query, field, operator, condition, missingRequired]

/-- The name of an error of the family. -/
def name : Family → String
  | query => "QueryValidationError"
  | field => "InvalidFieldError"
  | operator => "InvalidOperatorError"
  | condition => "InvalidConditionError"
  | missingRequired => "MissingRequiredFieldError"

/-- The family of a named error. -/
def ofName? (s : String) : Option Family := all.find? fun f => f.name = s

end QueryError.Family

/-- A query that is refused, by cause. -/
inductive QueryError
  /-- A part of a query that has to be a list is of another kind. -/
  | notList (part kind : String)
  /-- A count is not a whole number from zero up. -/
  | notCount (part : String)
  /-- The query is not an object. -/
  | notObject (kind : String)
  /-- A parameter that has to be a whole number is not one. -/
  | notInteger (part raw : String)
  /-- The query parameter is not JSON. -/
  | notJson
  /-- A search item has no value. -/
  | searchItem (item : String)
  /-- A name in the given role has characters that names cannot have. -/
  | name (role : String) (name : Value)
  /-- An include path has a segment that is no name. -/
  | includePath (path : Value)
  /-- A path segment names no relation of the table that it has reached. -/
  | unknownRelation (name table : String)
  | operator (raw : Value)
  | direction (raw : Value)
  | connective (raw : Value)
  | conditionField
  | conditionShape
  /-- The operator takes a sequence. -/
  | needsSequence (operator field : String)
  /-- The operator takes two values. -/
  | needsPair (operator field : String)
  /-- The operator takes a single value. -/
  | needsScalar (operator kind field : String)
  /-- A member of a sequence is not a single value. -/
  | memberKind (operator kind field : String)
  | groupConditions
  | groupShape (kind : String)
  | orderShape
  /-- A required field is in no condition. -/
  | missingRequired (name : Value)
  /-- An error stated by others. -/
  | stated (family : QueryError.Family) (message field : Value)
  deriving Repr

namespace QueryError

def family : QueryError → Family
  | notList .. | notCount .. | notObject .. | notInteger .. | notJson | searchItem .. => .query
  | name .. | includePath .. | unknownRelation .. => .field
  | operator .. | direction .. | connective .. => .operator
  | conditionField | conditionShape | needsSequence .. | needsPair .. | needsScalar ..
  | memberKind .. | groupConditions | groupShape .. | orderShape => .condition
  | missingRequired .. => .missingRequired
  | stated family .. => family

/-- The code that callers see. -/
def code (e : QueryError) : String :=
  match e.family with
  | .query => "INVALID_QUERY"
  | .field => "INVALID_FIELD"
  | .operator => "INVALID_OPERATOR"
  | .condition => "INVALID_CONDITION"
  | .missingRequired => "MISSING_REQUIRED_FIELD"

/-- The message that callers see. -/
def message : QueryError → String
  | notList part kind => "'" ++ part ++ "' must be a list, got " ++ kind
  | notCount part => "'" ++ part ++ "' must be a non-negative integer"
  | notObject kind => "query must be an object, got " ++ kind
  | notInteger part raw => "'" ++ part ++ "' must be an integer, got '" ++ raw ++ "'"
  | notJson => "'query' is not valid JSON"
  | searchItem item => "invalid search item '" ++ item ++ "': expected field:value[:operator]"
  | name role n => "invalid " ++ role ++ " name: " ++ n.display
  | includePath path => "invalid include name: " ++ path.display
  | unknownRelation n table =>
    "invalid include name: '" ++ n ++ "' is not a relation of '" ++ table ++ "'"
  | operator raw => "invalid operator: '" ++ raw.display ++ "' is not a valid operator"
  | direction raw => "invalid order direction: '" ++ raw.display ++ "' is not a valid direction"
  | connective raw => "invalid group operator: '" ++ raw.display ++ "' must be AND or OR"
  | conditionField => "invalid condition: field must be string"
  | conditionShape => "invalid condition: each condition must have at least 2 elements"
  | needsSequence op _ => "invalid condition: " ++ op ++ " operator requires a sequence value"
  | needsPair op _ =>
    "invalid condition: " ++ op ++ " operator requires a sequence value with 2 elements"
  | needsScalar op kind _ =>
    "invalid condition: " ++ op ++ " operator requires a scalar value, got " ++ kind
  | memberKind op kind _ => "invalid condition: " ++ op ++ " values must be scalars, got " ++ kind
  | groupConditions => "invalid condition group: 'conditions' must be a list"
  | groupShape kind => "invalid condition group: expected an object, got " ++ kind
  | orderShape =>
    "invalid order condition: each order condition must have exactly 1 or 2 elements"
  | missingRequired n => "required field '" ++ n.display ++ "' is missing in search conditions"
  | stated _ message _ => message.display

/-- The message as it was stated, which is text unless someone states something else. -/
def statement (e : QueryError) : Value :=
  match e with
  | stated _ message _ => message
  | e => .text e.message

/-- The field that the error is about, null if it is about none. -/
def field : QueryError → Value
  | name _ n => .text n.display
  | includePath path => .text path.display
  | unknownRelation n _ => .text n
  | needsSequence _ f | needsPair _ f | needsScalar _ _ f | memberKind _ _ f => .text f
  | missingRequired n => n
  | stated _ _ f => f
  | _ => .null

end QueryError

end TableQuery
