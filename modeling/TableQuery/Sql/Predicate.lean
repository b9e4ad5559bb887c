import TableQuery.Text.Blank
import TableQuery.Text.Pieces
import TableQuery.Value.Basic

/-! Predicates: pieces of statement text that are true or false of a row, with `?` for each bound
    value. -/

namespace TableQuery

/-- A condition in statement text and its bound values, in the order of their placeholders. The empty
    text is the predicate that does not restrict anything. -/
structure Predicate where
  sql : String
  params : List Value
  deriving BEq, Repr, Inhabited

namespace Predicate

/-- The predicate that does not restrict anything. -/
def none : Predicate := ⟨"", []⟩

def isNone (p : Predicate) : Bool := p.sql.isEmpty

/-- The predicate in parentheses. -/
def grouped (p : Predicate) : Predicate :=
  if p.isNone then p else ⟨"(" ++ p.sql ++ ")", p.params⟩

/-- Predicates with a connective between them. Those that do not restrict anything are left out, and one
    that is left alone is taken as it is. -/
def join (ps : List Predicate) (connective : String) : Predicate :=
  let parts := ps.filter fun p => !p.isNone
  match parts with
  | [] => none
  | [p] => p
  | ps => ⟨joinWith (" " ++ connective ++ " ") (ps.map sql), ps.flatMap params⟩

/-- All of the predicates. -/
def all (ps : List Predicate) : Predicate := join ps "AND"

/-- A predicate together with others. -/
def and (p : Predicate) (others : List Predicate) : Predicate := all (p :: others)

/-- A predicate as the caller writes it; it stands in parentheses, so that nothing in it binds with what
    is around it. -/
def raw (sql : String) (args : List Value) : Predicate := grouped ⟨trimText sql, args⟩

/-- The `WHERE` part of a statement; there is none if nothing is restricted. -/
def whereClause (p : Predicate) : String := if p.isNone then "" else " WHERE " ++ p.sql

end Predicate

end TableQuery
