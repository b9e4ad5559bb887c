import TableQuery.Query.Error
import TableQuery.Text.Pieces

/-! Names: the only text that is written into statements. A name is made of ASCII letters, digits,
    underscores and dots. -/

namespace TableQuery

/-- A character of a name. -/
def isNameChar (c : Char) : Bool := c.isAlphanum || c = '_' || c = '.'

/-- Whether text is a name. -/
def isName (s : String) : Bool := !s.isEmpty && s.toList.all isNameChar

/-- Whether text is a path of relation names with dots between them. -/
def isIncludePath (s : String) : Bool := !s.isEmpty && (cutText '.' s).all isName

namespace Value

/-- Whether a value is a name. -/
def isName : Value → Bool
  | .text s => TableQuery.isName s
  | _ => false

/-- Whether a value is a path of relation names. -/
def isIncludePath : Value → Bool
  | .text s => TableQuery.isIncludePath s
  | _ => false

/-- The text of a name; the role says what the name is for. -/
def asName (role : String) (v : Value) : Except QueryError String :=
  match v with
  | .text s => if TableQuery.isName s then .ok s else .error (.name role v)
  | _ => .error (.name role v)

/-- The text of a path of relation names. -/
def asIncludePath (v : Value) : Except QueryError String :=
  match v with
  | .text s => if TableQuery.isIncludePath s then .ok s else .error (.includePath v)
  | _ => .error (.includePath v)

/-- The texts of names, refused at the first value that is none. -/
def asNames (role : String) (vs : List Value) : Except QueryError (List String) :=
  vs.mapM (asName role)

end Value

end TableQuery
