import TableQuery.Query.Error
import TableQuery.Text.Blank
import TableQuery.Text.Case

/-! Search operators, the connectives of condition groups, and the directions of an order. Each is a
    closed set with one canonical spelling; other spellings are brought to it. -/

namespace TableQuery

/-- The search operators. -/
inductive Operator
  | eq | ne | neAlt | gt | gte | lt | lte
  | like | notLike | leftLike | rightLike
  | isIn | notIn
  | isNull | isNotNull
  | between | notBetween
  deriving DecidableEq, Repr, Inhabited

namespace Operator

def all : List Operator :=
  [eq, ne, neAlt, gt, gte, lt, lte, like, notLike, leftLike, rightLike, isIn, notIn, isNull, isNotNull,
   between, notBetween]

/-- The canonical spelling. -/
def spelling : Operator → String
  | eq => "=" | ne => "!=" | neAlt => "<>" | gt => ">" | gte => ">=" | lt => "<" | lte => "<="
  | like => "LIKE" | notLike => "NOT LIKE" | leftLike => "LEFT LIKE" | rightLike => "RIGHT LIKE"
  | isIn => "IN" | notIn => "NOT IN"
  | isNull => "IS NULL" | isNotNull => "IS NOT NULL"
  | between => "BETWEEN" | notBetween => "NOT BETWEEN"

/-- The name of an operator. -/
def name : Operator → String
  | eq => "EQ" | ne => "NE" | neAlt => "NE_ALT" | gt => "GT" | gte => "GTE" | lt => "LT" | lte => "LTE"
  | like => "LIKE" | notLike => "NOT_LIKE" | leftLike => "LEFT_LIKE" | rightLike => "RIGHT_LIKE"
  | isIn => "IN" | notIn => "NOT_IN"
  | isNull => "IS_NULL" | isNotNull => "IS_NOT_NULL"
  | between => "BETWEEN" | notBetween => "NOT_BETWEEN"

/-- The operator of a canonical spelling. -/
def ofSpelling? (s : String) : Option Operator := all.find? fun op => op.spelling = s

/-- Tests for null, which take no value. -/
def isNullCheck : Operator → Bool
  | isNull | isNotNull => true
  | _ => false

/-- Tests for membership in a sequence. -/
def isMembership : Operator → Bool
  | isIn | notIn => true
  | _ => false

/-- Tests for a range, which take two values. -/
def isRange : Operator → Bool
  | between | notBetween => true
  | _ => false

/-- Tests against a pattern. -/
def isPattern : Operator → Bool
  | like | notLike | leftLike | rightLike => true
  | _ => false

/-- Whether the operator takes a sequence of values. -/
def takesSequence (op : Operator) : Bool := op.isMembership || op.isRange

end Operator

/-- Text in which case, underscores and runs of blanks do not matter any more: underscores become
    spaces, the ends are trimmed, each run of blanks becomes one space, and letters become capitals. -/
def canonicalSpelling (s : String) : String :=
  String.ofList (upper (collapseBlanks (trim (replaceUnderscores s.toList))))
where
  replaceUnderscores (cs : List Char) : List Char := cs.map fun c => if c = '_' then ' ' else c

namespace Operator

/-- The canonical spelling of a value; what is not text is shown. -/
def normalize : Value → String
  | .text s => canonicalSpelling s
  | v => v.display

/-- Whether a value spells an operator. -/
def isSpelling (v : Value) : Bool := (ofSpelling? (normalize v)).isSome

/-- The operator that a value spells. -/
def ofValue (v : Value) : Except QueryError Operator :=
  match ofSpelling? (normalize v) with
  | some op => .ok op
  | none => .error (.operator v)

end Operator

/-- How the conditions of a group are joined. -/
inductive Connective
  | and
  | or
  deriving DecidableEq, Repr, Inhabited

namespace Connective

def spelling : Connective → String
  | .and => "AND"
  | .or => "OR"

/-- The connective that a value spells; null and the empty text stand for `AND`. -/
def ofValue (v : Value) : Except QueryError Connective :=
  if v.isBlankValue then .ok .and
  else
    let s := Operator.normalize v
    if s = "AND" then .ok .and
    else if s = "OR" then .ok .or
    else .error (.connective v)

end Connective

/-- The direction of an order. -/
inductive Direction
  | asc
  | desc
  deriving DecidableEq, Repr, Inhabited

namespace Direction

def spelling : Direction → String
  | .asc => "asc"
  | .desc => "desc"

/-- The keyword in a statement. -/
def keyword : Direction → String
  | .asc => "ASC"
  | .desc => "DESC"

/-- The direction that a value spells, in any case. -/
def ofValue (v : Value) : Except QueryError Direction :=
  match v with
  | .text s =>
    let low := lowerText s
    if low = "asc" then .ok .asc
    else if low = "desc" then .ok .desc
    else .error (.direction v)
  | _ => .error (.direction v)

end Direction

end TableQuery
