import TableQuery.Value.Tagged

/-! Declarations of models: each field with its name, its type, and perhaps an alias and a default. Types
    are written as names, or as objects that name a container and what it holds. -/

namespace TableQuery

namespace FieldType

mutual

/-- The type that a declaration writes; `models` knows the models by name. What is no type stands for
    any. -/
def declared (models : String → Model) : Value → FieldType
  | .text "int" => int
  | .text "str" => text
  | .text "float" => float
  | .text "bool" => bool
  | .text "datetime" => instant
  | .text "none" => nothing
  | .text "list" => list
  | .text "dict" => dict
  | .text "set" => set
  | .text "frozenset" => frozenset
  | .text "tuple" => tuple
  | .dict [("optional", t)] => unite true [declared models t, nothing]
  | .dict [("list", t)] => listOf false (declared models t)
  | .dict [("list_builtin", t)] => listOf true (declared models t)
  | .dict [("dict", t)] => dictOf (declared models t)
  | .dict [("set", t)] => setOf false (declared models t)
  | .dict [("frozenset", t)] => setOf true (declared models t)
  | .dict [("tuple", t)] => tupleOf (declared models t)
  | .dict [("union", .list ts)] => unite true (declaredAll models ts)
  | .dict [("bar", .list ts)] => match declaredAll models ts with
    | [] => any
    | t :: ts => ts.foldl bar t
  | .dict [("model", .text name)] => model name (models name).fields
  | _ => any

def declaredAll (models : String → Model) : List Value → List FieldType
  | [] => []
  | t :: ts => declared models t :: declaredAll models ts

end

end FieldType

namespace Model

/-- The model without fields. -/
def bare (name : String) : Model := ⟨name, []⟩

/-- A field from its declaration. -/
def declaredField (models : String → Model) (entries : List (String × Value)) : FieldInfo × FieldType :=
  (⟨Tagged.textOf (Row.getD entries "name"),
    (Row.get? entries "alias").bind Tagged.text?,
    (Row.get? entries "default").map fun v => ((Tagged.read models v).toOption).getD .null⟩,
   FieldType.declared models (Row.getD entries "type"))

/-- The model of a name among declarations. Models are found inside models as deep as `depth` says. -/
def declaredWithin (declarations : List (String × Value)) : Nat → String → Model
  | 0, name => bare name
  | depth + 1, name =>
    match Row.getD declarations name with
    | .list fields => ⟨name, fields.map fun
      | .dict entries => declaredField (declaredWithin declarations depth) entries
      | _ => declaredField bare []⟩
    | _ => bare name

/-- The model of a name among declarations, none of which may lead back to itself. -/
def declared (declarations : List (String × Value)) (name : String) : Model :=
  declaredWithin declarations (declarations.length + 1) name

end Model

end TableQuery
