/-! Shapes: what the places of an entity are meant for. What is written of a value depends on the place
    that it stands in. -/

namespace TableQuery

/-- What a place is meant for. -/
inductive Shape
  | any | int | float | bool | text | instant | nothing
  | list (item : Shape)
  | dict (item : Shape)
  | set (frozen : Bool) (item : Shape)
  | tuple (item : Shape)
  | nullable (s : Shape)
  /-- One of several. -/
  | union (choices : List Shape)
  | model (name : String)
  deriving BEq, Repr, Inhabited

namespace Shape

def isInt : Shape → Bool
  | int => true
  | _ => false

def isFloat : Shape → Bool
  | float => true
  | _ => false

end Shape

end TableQuery
