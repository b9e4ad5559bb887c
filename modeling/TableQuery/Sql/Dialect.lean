import TableQuery.Failure
import TableQuery.Json.Writer
import TableQuery.Text.Pieces
import TableQuery.Value.Storage

/-! Dialects: how each store quotes names, marks parameters, and takes values. -/

namespace TableQuery

/-- The dialects of SQL. The generic one writes everything as it is. -/
inductive Dialect
  | generic
  | sqlite
  | mysql
  | postgresql
  deriving DecidableEq, Repr, Inhabited

namespace Dialect

def name : Dialect → String
  | generic => "generic"
  | sqlite => "sqlite"
  | mysql => "mysql"
  | postgresql => "postgresql"

/-- Whether an insertion can return the inserted row. -/
def supportsReturning : Dialect → Bool
  | postgresql => true
  | _ => false

/-- Text between quotes, with each quote inside it doubled. -/
def enclose (quote : Char) (s : String) : String :=
  String.ofList (quote :: replaceChar quote [quote, quote] s.toList ++ [quote])

/-- A name without structure, quoted. -/
def quoteName (d : Dialect) (s : String) : String :=
  match d with
  | generic => s
  | mysql => enclose '\x60' s
  | sqlite | postgresql => enclose '"' s

/-- One segment of a name; a star stands for all columns and is not quoted. -/
def quoteSegment (d : Dialect) (s : String) : String := if s = "*" then s else d.quoteName s

/-- A name, quoted segment by segment. -/
def quote (d : Dialect) (s : String) : String :=
  if s = "*" then s else joinWith "." ((cutText '.' s).map d.quoteSegment)

/-- The test that a column holds something other than the empty text. -/
def notBlank (d : Dialect) (column : String) : String :=
  match d with
  | postgresql => column ++ " IS NOT NULL AND CAST(" ++ column ++ " AS TEXT) != ''"
  | _ => column ++ " IS NOT NULL AND " ++ column ++ " != ''"

/-- The mark of a parameter, which is counted from one. -/
def placeholder (d : Dialect) (index : Int) : String :=
  match d with
  | mysql => "%s"
  | postgresql => "$" ++ intText index
  | _ => "?"

/-- Statement text between placeholders. The driver for MySQL reads a percent sign as a directive, so
    each is doubled. -/
def literalText (d : Dialect) (s : String) : String :=
  match d with
  | mysql => replaceCharText '%' "%%" s
  | _ => s

/-- The JSON text of the storage form of a value. -/
def jsonText (v : Value) : Outcome Value := do
  match Json.write (← v.storable) with
  | .ok s => .ok (.text s)
  | .error e => .error (.misuse e.misuse)

/-- The attribute that marks a record as one to be stored like an entity. -/
def dumpAttribute : String := "model_dump"

/-- A value in a shape that every driver takes: a named constant as what it stands for, containers and
    entities, and what is marked like one, as JSON text. -/
def adaptCommon (v : Value) : Outcome Value :=
  let v := match v with
    | .enum _ _ inner => inner
    | v => v
  match v with
  | .dict _ | .list _ | .tuple _ | .entity .. | .model _ => jsonText v
  | .set frozen _ => if frozen then .ok v else jsonText v
  | .bag es | .record _ es => if Row.hasColumn es dumpAttribute then jsonText v else .ok v
  | v => .ok v

/-- A value in a shape that the driver takes. For SQLite dates and times become ISO text, decimals
    floating-point numbers and identifiers text; for MySQL identifiers become text. -/
def adapt (d : Dialect) (v : Value) : Outcome Value := do
  let v ← adaptCommon v
  match d, v with
  | sqlite, .date x => .ok (.text x.text)
  | sqlite, .clock x => .ok (.text x.text)
  | sqlite, .instant x => .ok (.text x.text)
  | sqlite, .decimal (.nan _ true _) => .error (.misuse .signalingNumber)
  | sqlite, .decimal x => .ok (.double x.toDouble)
  | sqlite, .uuid s => .ok (.text s)
  | mysql, .uuid s => .ok (.text s)
  | _, v => .ok v

end Dialect

end TableQuery
