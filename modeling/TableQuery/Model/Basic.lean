import TableQuery.Value.Basic

/-! Models: the declared shape of a record, field by field. A field may stand in a column of another
    name. -/

namespace TableQuery

/-- What is known of a field besides its type. -/
structure FieldInfo where
  name : String
  /-- The name under which the field is stored and given, if it is not its own. -/
  alias? : Option String
  /-- The value of a field that is not given; a field without one is required. -/
  default? : Option Value
  deriving Repr, Inhabited, BEq

namespace FieldInfo

/-- The key under which dictionaries hold the field. -/
def key (f : FieldInfo) : String := f.alias?.getD f.name

/-- The column of a field. An empty alias counts as none. -/
def column (f : FieldInfo) : String :=
  match f.alias? with
  | some a => if a.isEmpty then f.name else a
  | none => f.name

end FieldInfo

/-- The type of a field. -/
inductive FieldType
  | any | int | float | bool | text | instant | nothing
  /-- Containers of anything. -/
  | list | dict | set | frozenset | tuple
  /-- Containers of one type; `plain` tells the built-in spelling of a list type from the other, and `frozen` the
      sets that do not change from those that do. -/
  | listOf (plain : Bool) (item : FieldType)
  | dictOf (item : FieldType)
  | setOf (frozen : Bool) (item : FieldType)
  | tupleOf (item : FieldType)
  /-- One of several types. A spelled-out union is looked into for containers, one written with bars is
      not. -/
  | union (spelledOut : Bool) (ts : List FieldType)
  | model (name : String) (fields : List (FieldInfo × FieldType))
  deriving Repr, Inhabited

/-- A model: its name and its fields in order. -/
structure Model where
  name : String
  fields : List (FieldInfo × FieldType)
  deriving Repr, Inhabited

namespace FieldType

mutual

/-- Whether two types are the same. The order of the types of a union does not matter. -/
def same : FieldType → FieldType → Bool
  | any, any | int, int | float, float | bool, bool | text, text | instant, instant => true
  | nothing, nothing | list, list | dict, dict | set, set | frozenset, frozenset | tuple, tuple => true
  | listOf p t, listOf q u => p == q && same t u
  | setOf f t, setOf g u => f == g && same t u
  | dictOf t, dictOf u | tupleOf t, tupleOf u => same t u
  | union _ ts, union _ us => ts.length == us.length && sameAmong ts us
  | model m _, model n _ => m == n
  | _, _ => false

/-- Whether each type of a list is the same as some type of another. -/
def sameAmong : List FieldType → List FieldType → Bool
  | [], _ => true
  | t :: ts, us => us.any (same t) && sameAmong ts us

end

/-- The types that a value may be of. -/
def choices : FieldType → List FieldType
  | union _ ts => ts
  | t => [t]

/-- The union of types: unions among them are taken apart, of equal types the first is kept, and a single
    type is no union. -/
def unite (spelledOut : Bool) (ts : List FieldType) : FieldType :=
  let distinct := (ts.flatMap choices).foldl
    (fun seen t => if seen.any (same t) then seen else seen ++ [t]) []
  match distinct with
  | [t] => t
  | ts => union spelledOut ts

/-- Whether an operand makes a union that is written with bars count as spelled out: the spelled-out
    container and union types do. -/
def opensBar : FieldType → Bool
  | listOf plain _ => !plain
  | dictOf _ | setOf .. | tupleOf _ => true
  | union spelledOut _ => spelledOut
  | _ => false

/-- Two types with a bar between them. -/
def bar (t u : FieldType) : FieldType := unite (t.opensBar || u.opensBar) [t, u]

mutual

/-- Whether a field of the type is stored as JSON text: containers, models, and spelled-out unions with
    one of those. -/
def isContainer : FieldType → Bool
  | list | dict | set | frozenset | tuple | listOf .. | dictOf _ | setOf .. | tupleOf _ | model .. => true
  | union spelledOut ts => spelledOut && anyContainer ts
  | _ => false

def anyContainer : List FieldType → Bool
  | [] => false
  | t :: ts => isContainer t || anyContainer ts

end

def isNothing : FieldType → Bool
  | nothing => true
  | _ => false

mutual

/-- What the places of a type are meant for. -/
def shape : FieldType → Shape
  | any => .any | int => .int | float => .float | bool => .bool | text => .text
  | instant => .instant | nothing => .nothing
  | list => .list .any | dict => .dict .any | set => .set false .any | frozenset => .set true .any
  | tuple => .tuple .any
  | listOf _ t => .list (shape t)
  | dictOf t => .dict (shape t)
  | setOf frozen t => .set frozen (shape t)
  | tupleOf t => .tuple (shape t)
  | union _ ts =>
    let s := match shapes ts with
      | [s] => s
      | ss => .union ss
    if ts.any isNothing then .nullable s else s
  | model name _ => .model name

/-- The shapes of types other than that of null. -/
def shapes : List FieldType → List Shape
  | [] => []
  | t :: ts => if t.isNothing then shapes ts else shape t :: shapes ts

end

end FieldType

/-- How the entities of a model are laid out, by the fields of the model and those that were given. -/
def Layout.ofFields (model : String) (fields : List (FieldInfo × FieldType)) (given : List String) :
    Layout :=
  ⟨model, fields.map fun (f, t) => ⟨f.name, f.column, f.key, t.shape⟩, given⟩

namespace Model

def fieldInfos (m : Model) : List FieldInfo := m.fields.map Prod.fst

/-- Field and column of every field, in field order. -/
def columns (m : Model) : List (String × String) := m.fieldInfos.map fun f => (f.name, f.column)

/-- The columns that hold JSON text, each once and in field order. -/
def jsonColumns (m : Model) : List String :=
  (m.fields.filterMap fun (f, t) => if t.isContainer then some f.column else none).eraseDups

/-- A dictionary of names, in which the last entry of a name counts. -/
def lastOf (pairs : List (String × String)) (name : String) : Option String :=
  List.lookup name pairs.reverse

/-- The column of a field. -/
def columnOf? (m : Model) (field : String) : Option String := lastOf m.columns field

/-- The field of a column. -/
def fieldOf? (m : Model) (column : String) : Option String :=
  lastOf (m.columns.map fun (field, column) => (column, field)) column

/-- The column for a name: that of the field of this name, or the name itself. -/
def columnFor (m : Option Model) (name : String) : String :=
  match m with
  | some m => (m.columnOf? name).getD name
  | none => name

end Model

end TableQuery
