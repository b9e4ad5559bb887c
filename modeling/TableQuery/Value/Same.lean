import TableQuery.Value.Basic

/-! When two values are the same to a look-up. Numbers are compared by what they amount to, whatever
    their kind; a list is never the same as a tuple. -/

namespace TableQuery

/-- A number as its sign and its decimal form without trailing zeros. -/
structure Quantity where
  negative : Bool
  coefficient : Nat
  exponent : Int
  deriving DecidableEq, Repr

namespace Quantity

def ofParts (negative : Bool) (coefficient : Nat) (exponent : Int) : Quantity :=
  let (c, e) := stripZeros coefficient exponent
  ⟨negative && c ≠ 0, c, e⟩

/-- The quantity of a finite number of any kind. Truth values count as one and zero. -/
def ofValue? : Value → Option Quantity
  | .bool b => some (ofParts false (if b then 1 else 0) 0)
  | .int n => some (ofParts (n < 0) n.natAbs 0)
  | .double (.finite negative m e) =>
    let (c, x) := Double.decimalForm m e
    some (ofParts negative c x)
  | .decimal (.finite negative c e) => some (ofParts negative c e)
  | _ => none

end Quantity

namespace Value

/-- The sign of an infinite number. -/
def infiniteSign? : Value → Option Bool
  | .double (.infinite negative) => some negative
  | .decimal (.infinite negative) => some negative
  | _ => none

/-- Whether two values are the same number. Nothing is the same as what is not a number. -/
def sameNumber (a b : Value) : Bool :=
  match Quantity.ofValue? a, Quantity.ofValue? b with
  | some p, some q => p == q
  | none, none => match infiniteSign? a, infiniteSign? b with
    | some s, some t => s == t
    | _, _ => false
  | _, _ => false

mutual

/-- Whether two values are the same to a look-up. -/
def same : Value → Value → Bool
  | .null, .null => true
  | .text s, .text t => s == t
  | .bytes s, .bytes t => s == t
  | .date d, .date e => d == e
  | .clock c, .clock d => c.same d
  | .instant i, .instant j => i.same j
  | .uuid s, .uuid t => s == t
  | .list xs, .list ys => sameItems xs ys
  | .tuple xs, .tuple ys => sameItems xs ys
  | .set _ xs, .set _ ys => sameItems xs ys
  | .members xs, .members ys => sameItems xs ys
  | .dict es, .dict fs => es.length == fs.length && sameEntries es fs
  | .record k es, .record l fs => k == l && es.length == fs.length && sameEntries es fs
  | .bag es, .bag fs => es.length == fs.length && sameEntries es fs
  | .entity a es, .entity b fs =>
    a.model == b.model && es.length == fs.length && sameEntries es fs
  | .model m, .model n => m == n
  | a, b => sameNumber a b

def sameItems : List Value → List Value → Bool
  | [], [] => true
  | x :: xs, y :: ys => same x y && sameItems xs ys
  | _, _ => false

/-- Whether every entry has a partner of the same key and value. -/
def sameEntries : List (String × Value) → List (String × Value) → Bool
  | [], _ => true
  | (k, v) :: es, fs =>
    (match List.lookup k fs with
      | some w => same v w
      | none => false) && sameEntries es fs

end

/-- Whether a value is the same as some member of a list. -/
def isAmong (v : Value) (vs : List Value) : Bool := vs.any (same v)

end Value

end TableQuery
