import TableQuery.Selection.Deletion
import TableQuery.Writing.Creation
import TableQuery.Writing.Update
import TableQuery.Proofs.Requests

/-! The operations on one table as data, so that a statement about all of them is one statement. -/

namespace TableQuery

/-- An operation with its arguments. -/
inductive Operation
  | get
  | page
  | first
  | find (id : Value)
  | count
  | sum (field : Value)
  | average (field : Value)
  | exist
  | existsById (id : Value)
  | create (now : Instant) (record : Value)
  | update (now : Instant) (record : Value)
  | updateById (now : Instant) (id record : Value)
  | delete (now : Instant)
  | deleteById (now : Instant) (id : Value) (extra : Option Query)

namespace Operation

/-- The program of an operation without its result. Reading and deleting only look at the selection of the
    writer. -/
def program (w : Writer) (timeout : Value) : Operation → Program Unit
  | get => (w.selection.get timeout).void
  | page => (w.selection.page timeout).void
  | first => (w.selection.first timeout).void
  | find id => (w.selection.find id timeout).void
  | count => (w.selection.count timeout).void
  | sum field => (w.selection.sum field timeout).void
  | average field => (w.selection.average field timeout).void
  | exist => (w.selection.exist timeout).void
  | existsById id => (w.selection.existsById id timeout).void
  | create now record => (w.create now record timeout).void
  | update now record => (w.update now record timeout).void
  | updateById now id record => (w.updateById now id record timeout).void
  | delete now => (w.selection.delete now timeout).void
  | deleteById now id extra => (w.selection.deleteById now id extra timeout).void

end Operation
end TableQuery
