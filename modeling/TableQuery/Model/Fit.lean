import TableQuery.Failure

/-! Fits: how well a value suits a type that it was brought to. Where a field may be of several types, the
    one that its value suits best is taken. -/

namespace TableQuery

/-- How close a value was to its type before it was brought to it. -/
inductive Closeness
  /-- It was converted. -/
  | converted
  /-- It is of a kind that counts as the type. -/
  | akin
  /-- It is of the type as it stands. -/
  | same
  deriving DecidableEq, Repr

namespace Closeness

def rank : Closeness → Nat
  | converted => 0
  | akin => 1
  | same => 2

/-- The lesser of two. -/
def meet (a b : Closeness) : Closeness := if a.rank ≤ b.rank then a else b

end Closeness

/-- How well a value suits its type. -/
structure Fit where
  closeness : Closeness
  /-- How many fields of models were given, if dictionaries became entities. -/
  given : Option Nat
  deriving DecidableEq, Repr

namespace Fit

/-- The fit of a value that is of its type as it stands. -/
def perfect : Fit := ⟨.same, none⟩

/-- The number of fields given in two parts. -/
def addGiven (a b : Option Nat) : Option Nat :=
  match a, b with
  | none, b => b
  | a, none => a
  | some m, some n => some (m + n)

/-- The fit of a whole of two parts. -/
def meet (a b : Fit) : Fit := ⟨a.closeness.meet b.closeness, addGiven a.given b.given⟩

/-- The fit of a whole of several parts. -/
def meetAll (fits : List Fit) : Fit := fits.foldl meet perfect

/-- Dictionaries that became entities count most, and among them those with more fields given. -/
def givenRank (f : Fit) : Nat :=
  match f.given with
  | none => 0
  | some n => n + 1

/-- Whether the second of two fits is the better one. -/
def isBelow (a b : Fit) : Bool :=
  a.givenRank < b.givenRank || (a.givenRank = b.givenRank && a.closeness.rank < b.closeness.rank)

end Fit

/-- A value that was brought to a type, with its fit. -/
structure Fitted where
  value : Value
  fit : Fit
  deriving Repr

namespace Fitted

/-- The first of the best. -/
def best : List Fitted → Option Fitted
  | [] => none
  | x :: xs => match best xs with
    | some y => some (if x.fit.isBelow y.fit then y else x)
    | none => some x

end Fitted

/-- The result of bringing a value to a type: the value, or what is wrong with it. -/
abbrev Checked (α : Type) := Except (List FieldProblem) α

namespace Checked

/-- A problem with the value itself. -/
def problem {α : Type} (kind : String) : Checked α := .error [⟨[], kind⟩]

/-- A value that is of its type as it stands. -/
def same (v : Value) : Checked Fitted := .ok ⟨v, .perfect⟩

/-- A value of a kind that counts as its type. -/
def akin (v : Value) : Checked Fitted := .ok ⟨v, ⟨.akin, none⟩⟩

/-- A value that was converted. -/
def converted (v : Value) : Checked Fitted := .ok ⟨v, ⟨.converted, none⟩⟩

/-- Puts a step in front of the paths of problems. -/
def stepInto (step : PathStep) (problems : List FieldProblem) : List FieldProblem :=
  problems.map fun p => { p with path := step :: p.path }

/-- Reports problems one step deeper. -/
def under {α : Type} (step : PathStep) (c : Checked α) : Checked α := c.mapError (stepInto step)

def problems {α : Type} : Checked α → List FieldProblem
  | .ok _ => []
  | .error ps => ps

/-- The results of all, or all problems. -/
def all {α : Type} : List (Checked α) → Checked (List α)
  | [] => .ok []
  | .ok a :: rest => (all rest).map (a :: ·)
  | .error ps :: rest => .error (ps ++ problems (all rest))

end Checked

end TableQuery
