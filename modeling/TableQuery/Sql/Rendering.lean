import TableQuery.Sql.Dialect

/-! Rendering: a statement with `?` placeholders becomes the text and the flat parameters that a driver
    takes. A question mark between quotes is no placeholder. -/

namespace TableQuery

/-- Whether a character opens a quoted span. -/
def isQuoteMark (c : Char) : Bool := c = '\'' || c = '"' || c = '\x60'

/-- The pieces of statement text between its placeholders; `inside` is the quote that is open. -/
def placeholderPieces (inside : Option Char) : List Char → List (List Char)
  | [] => [[]]
  | c :: cs =>
    let extend (pieces : List (List Char)) : List (List Char) :=
      match pieces with
      | [] => [[c]]
      | piece :: rest => (c :: piece) :: rest
    match inside with
    | some q => extend (placeholderPieces (if c = q then none else inside) cs)
    | none =>
      if isQuoteMark c then extend (placeholderPieces (some c) cs)
      else if c = '?' then [] :: placeholderPieces none cs
      else extend (placeholderPieces none cs)

/-- How many placeholders statement text has. -/
def placeholderCount (sql : String) : Nat := (placeholderPieces none sql.toList).length - 1

namespace Dialect

/-- The marks for members of a sequence, which take the parameters from `next` on. -/
def memberMarks (d : Dialect) (next : Nat) : List Value → List String
  | [] => []
  | _ :: vs => d.placeholder next :: memberMarks d (next + 1) vs

/-- What stands for one placeholder, and the parameters that it takes; `next` is the number of the next
    parameter. A sequence to expand takes one parameter for each member. -/
def fill (d : Dialect) (next : Nat) (v : Value) : Outcome (String × List Value) :=
  match v with
  | .members vs => do
    let adapted ← vs.mapM d.adapt
    .ok (joinWith ", " (d.memberMarks next vs), adapted)
  | v => do
    let adapted ← d.adapt v
    .ok (d.placeholder next, [adapted])

/-- Fills the placeholders in front of the given pieces; `taken` counts the placeholders filled before,
    and `next` is the number of the next parameter. -/
def fillAll (d : Dialect) (taken next : Nat) :
    List (List Char) → List Value → Outcome (String × List Value)
  | [], [] => .ok ("", [])
  | [], params => .error (.misuse (.spareParameters taken (taken + params.length)))
  | _ :: _, [] => .error (.misuse (.missingParameter taken))
  | piece :: pieces, v :: params => do
    let (mark, here) ← d.fill next v
    let (text, rest) ← fillAll d (taken + 1) (next + here.length) pieces params
    .ok (mark ++ d.literalText (String.ofList piece) ++ text, here ++ rest)

/-- The text and parameters that the driver takes. -/
def render (d : Dialect) (sql : String) (params : List Value) : Outcome (String × List Value) :=
  match placeholderPieces none sql.toList with
  | [] => .ok ("", [])
  | first :: pieces => do
    let (text, flat) ← d.fillAll 0 1 pieces params
    .ok (d.literalText (String.ofList first) ++ text, flat)

end Dialect

end TableQuery
