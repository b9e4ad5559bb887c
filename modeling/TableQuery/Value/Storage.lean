import TableQuery.Failure
import TableQuery.Text.Encoding

/-! The form in which a value is stored inside a JSON column: containers become lists and dictionaries,
    entities become dictionaries by key, and dates, identifiers and decimals become text. Inside an entity
    the shape of the place that a value stands in has a say. -/

namespace TableQuery

namespace Shape

mutual

/-- Whether a value suits a shape as it stands; a strict look tells truth values from numbers. -/
def suits (strict : Bool) : Shape → Value → Bool
  | any, _ => true
  | int, .int _ => true
  | int, .bool _ => !strict
  | float, .double _ => true
  | bool, .bool _ => true
  | text, .text _ => true
  | instant, .instant _ => true
  | nothing, .null => true
  | list s, .list xs => xs.all (suits strict s)
  | dict s, .dict es => es.all fun (_, v) => suits strict s v
  | set frozen s, .set isFrozen xs => frozen == isFrozen && xs.all (suits strict s)
  | tuple s, .tuple xs => xs.all (suits strict s)
  | nullable _, .null => true
  | nullable s, v => suits strict s v
  | union choices, v => suitsSome strict choices v
  | model name, .entity layout _ => layout.model == name
  | _, _ => false

def suitsSome (strict : Bool) : List Shape → Value → Bool
  | [], _ => false
  | s :: ss, v => suits strict s v || suitsSome strict ss v

end

mutual

/-- The shape by which a value is written: a choice that the value suits if there is a choice, and what is
    not null where null is allowed. -/
def settle : Shape → Value → Shape
  | nullable s, v => if v.isNull then any else settle s v
  | union choices, v =>
    ((settleAmong true choices v).orElse fun _ => settleAmong false choices v).getD any
  | s, _ => s

/-- The first choice that the value suits. -/
def settleAmong (strict : Bool) : List Shape → Value → Option Shape
  | [], _ => none
  | s :: ss, v => if suits strict s v then some (settle s v) else settleAmong strict ss v

end

/-- The shape of the items of a value. -/
def item : Shape → Value → Shape
  | list s, .list _ => s
  | tuple s, .tuple _ => s
  | dict s, .dict _ => s
  | set frozen s, .set isFrozen _ => if frozen == isFrozen then s else any
  | _, _ => any

end Shape

namespace Value

mutual

/-- The JSON form of a value in a place of an entity. Times have their offset to the minute, and bytes that
    are text become it. A number that is not finite becomes null, except where the place is for
    floating-point numbers; a truth value becomes a number where the place is for whole numbers. -/
def placedForm (place : Shape) : Value → Outcome Value
  | .bool b => .ok (if (place.settle (.bool b)).isInt then .int (if b then 1 else 0) else .bool b)
  | .double x => .ok (if x.isFinite || (place.settle (.double x)).isFloat then .double x else .null)
  | .bytes bs => match Encoding.ofUtf8? (bs.map UInt8.toNat) with
    | some cs => .ok (.text (String.ofList cs))
    | none => .error .undecodable
  | .decimal d => .ok (.text d.text)
  | .date d => .ok (.text d.text)
  | .clock c => .ok (.text c.zuluText)
  | .instant i => .ok (.text i.zuluText)
  | .uuid s => .ok (.text s)
  | .list xs => (placedItems ((place.settle (.list xs)).item (.list xs)) xs).map .list
  | .tuple xs => (placedItems ((place.settle (.tuple xs)).item (.tuple xs)) xs).map .list
  | .set frozen xs =>
    (placedItems ((place.settle (.set frozen xs)).item (.set frozen xs)) xs).map .list
  | .dict es => (placedEntries ((place.settle (.dict es)).item (.dict es)) es).map .dict
  | .members xs => (placedItems .any xs).map fun xs => .dict [("items", .list xs)]
  | .enum _ _ v => placedForm .any v
  | .record _ fs => (placedEntries .any fs).map .dict
  | .entity layout fs => (placedFields layout fs).map fun es => .dict (Row.ofList es)
  | .bag es => .error (.unwritable (Value.bag es).fullKindName)
  | .model _ => .error (.unwritable "pydantic._internal._model_construction.ModelMetaclass")
  | v => .ok v

def placedItems (place : Shape) : List Value → Outcome (List Value)
  | [] => .ok []
  | x :: xs => do
    let v ← placedForm place x
    let vs ← placedItems place xs
    .ok (v :: vs)

def placedEntries (place : Shape) : List (String × Value) → Outcome (List (String × Value))
  | [] => .ok []
  | (k, x) :: es => do
    let v ← placedForm place x
    let rest ← placedEntries place es
    .ok ((k, v) :: rest)

/-- The fields of an entity with their JSON forms, by key. -/
def placedFields (layout : Layout) : List (String × Value) → Outcome (List (String × Value))
  | [] => .ok []
  | (field, x) :: es => do
    let v ← placedForm (layout.shapeOf field) x
    let rest ← placedFields layout es
    .ok ((layout.keyOf field, v) :: rest)

end

/-- The form of an entity as a dictionary. A model has fields without values, so it has none. -/
def dumpedModel : Outcome Value := .error (.misuse (.missingArgument "BaseModel.model_dump" "self"))

mutual

/-- The storage form of a value. -/
def storable : Value → Outcome Value
  | .decimal d => .ok (.text d.text)
  | .date d => .ok (.text d.text)
  | .clock c => .ok (.text c.text)
  | .instant i => .ok (.text i.text)
  | .uuid s => .ok (.text s)
  | .list xs => (storableItems xs).map .list
  | .tuple xs => (storableItems xs).map .list
  | .set _ xs => (storableItems xs).map .list
  | .dict es => (storableEntries es).map .dict
  | .members xs => (storableItems xs).map fun xs => .dict [("items", .list xs)]
  | .enum _ _ v => storable v
  | .record _ fs => (storableEntries fs).map .dict
  | .entity layout fs => placedForm .any (.entity layout fs)
  | .model _ => dumpedModel
  | v => .ok v

def storableItems : List Value → Outcome (List Value)
  | [] => .ok []
  | x :: xs => do
    let v ← storable x
    let vs ← storableItems xs
    .ok (v :: vs)

def storableEntries : List (String × Value) → Outcome (List (String × Value))
  | [] => .ok []
  | (k, x) :: es => do
    let v ← storable x
    let rest ← storableEntries es
    .ok ((k, v) :: rest)

end

/-- The form of a value in a page of results: entities become dictionaries, other values stay as they
    are. -/
def dumped (v : Value) : Outcome Value :=
  match v with
  | .entity .. => placedForm .any v
  | .model _ => dumpedModel
  | v => .ok v

end Value

end TableQuery
