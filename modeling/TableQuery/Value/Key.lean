import TableQuery.Failure

/-! Keys: values under which something can be looked up. Lists, sets, dictionaries, records and entities
    change, so they are no keys. -/

namespace TableQuery

namespace Value

mutual

/-- Why a value cannot serve as a key, if it cannot. Of several faults the first counts. -/
def keyFault? : Value → Option Misuse
  | .list _ => some (.unhashable "list")
  | .set frozen _ => if frozen then none else some (.unhashable "set")
  | .dict _ => some (.unhashable "dict")
  | .record kind _ => some (.unhashable kind)
  | .bag es => some (.unhashable (Value.bag es).fullKindName)
  | .entity layout _ => some (.unhashable layout.model)
  | .decimal (.nan _ true _) => some .signalingKey
  | .tuple xs => itemFault? xs
  | .members xs => itemFault? xs
  | _ => none

/-- The first fault of items. -/
def itemFault? : List Value → Option Misuse
  | [] => none
  | x :: xs => (keyFault? x).orElse fun _ => itemFault? xs

end

/-- A value as a key. -/
def asKey (v : Value) : Outcome Value :=
  match v.keyFault? with
  | some m => .error (.misuse m)
  | none => .ok v

end Value

end TableQuery
