import TableQuery.Model.Basic
import TableQuery.Model.Scalar
import TableQuery.Value.Key
import TableQuery.Value.Same

/-! Validation: a dictionary becomes an entity of a model if every field has a value of its type or one
    that can be converted without loss. All problems are reported, in field order. -/

namespace TableQuery

namespace FieldType

open Checked

/-! ### Items -/

/-- The items of a value that a list, set or tuple may be made of. An entity has its fields as pairs. -/
def itemsOf? (v : Value) : Option (List Value) :=
  match v with
  | .entity _ fs => some (fs.map fun (name, v) => .tuple [.text name, v])
  | v => v.items?

/-- The items of a value, with the fit of the container: it is the right one, or its items are put into
    another. -/
def items (isRight : Value → Bool) (kind : String) (v : Value) : Checked (Fit × List Value) :=
  match itemsOf? v with
  | some xs => .ok (if isRight v then .perfect else ⟨.converted, none⟩, xs)
  | none => problem kind

def isList : Value → Bool
  | .list _ => true
  | _ => false

def isTuple : Value → Bool
  | .tuple _ => true
  | _ => false

def isSet (frozen : Bool) : Value → Bool
  | .set isFrozen _ => frozen == isFrozen
  | _ => false

/-- The results of checking items at their positions, from a position on. -/
def checkEach (check : Value → Checked Fitted) : Nat → List Value → List (Checked Fitted)
  | _, [] => []
  | i, x :: xs => under (.index i) (check x) :: checkEach check (i + 1) xs

/-- A container of checked items. -/
def gathered (make : List Value → Value) (fit : Fit) (results : List (Checked Fitted)) : Checked Fitted :=
  (all results).map fun xs => ⟨make (xs.map Fitted.value), fit.meet (.meetAll (xs.map Fitted.fit))⟩

/-- Members of a set, each once. -/
def distinct (xs : List Value) : List Value :=
  xs.foldl (fun seen x => if x.isAmong seen then seen else seen ++ [x]) []

/-- A checked member of a set, which has to be able to serve as a key. -/
def asMember (r : Checked Fitted) : Checked Fitted := do
  let x ← r
  if x.value.keyFault?.isSome then problem "set_item_not_hashable" else .ok x

/-- Any value. It suits less well than one whose type is named. -/
def checkAny (v : Value) : Checked Fitted := akin v

/-- A list of checked items. -/
def checkList (check : Value → Checked Fitted) (v : Value) : Checked Fitted := do
  let (fit, xs) ← items isList "list_type" v
  gathered .list fit (checkEach check 0 xs)

/-- A tuple of checked items. -/
def checkTuple (check : Value → Checked Fitted) (v : Value) : Checked Fitted := do
  let (fit, xs) ← items isTuple "tuple_type" v
  gathered .tuple fit (checkEach check 0 xs)

/-- A set of checked items. -/
def checkSet (frozen : Bool) (check : Value → Checked Fitted) (v : Value) : Checked Fitted := do
  let (fit, xs) ← items (isSet frozen) (if frozen then "frozen_set_type" else "set_type") v
  gathered (fun xs => .set frozen (distinct xs)) fit (checkEach (fun x => asMember (check x)) 0 xs)

/-- A dictionary of checked values. -/
def checkDict (check : Value → Checked Fitted) (v : Value) : Checked Fitted :=
  match v with
  | .dict es =>
    let results := es.map fun (k, x) => under (.key k) (check x)
    gathered (fun xs => .dict ((es.map Prod.fst).zip xs)) .perfect results
  | _ => problem "dict_type"

/-! ### Unions -/

/-- The name of a type, by which problems with one choice of a union are told apart. -/
def label : FieldType → String
  | any => "any" | int => "int" | float => "float" | bool => "bool" | text => "str"
  | instant => "datetime" | nothing => "none"
  | list => "list[any]" | dict => "dict[any,any]" | set => "set[any]"
  | frozenset => "frozenset[any]" | tuple => "tuple[any, ...]"
  | listOf _ t => "list[" ++ label t ++ "]"
  | dictOf t => "dict[str," ++ label t ++ "]"
  | setOf frozen t => (if frozen then "frozenset[" else "set[") ++ label t ++ "]"
  | tupleOf t => "tuple[" ++ label t ++ ", ...]"
  | union _ ts =>
    let names := labels ts
    let s := match names with
      | [name] => name
      | names => "union[" ++ joinWith "," names ++ "]"
    if ts.any isNothing then "nullable[" ++ s ++ "]" else s
  | model name _ => name
where
  /-- The names of types other than that of null. -/
  labels : List FieldType → List String
    | [] => []
    | t :: ts => if t.isNothing then labels ts else label t :: labels ts

/-- The result of the choice that suits best: one that suits perfectly at once, else the first of the
    best; otherwise the problems with each. -/
def choose (results : List (String × Checked Fitted)) : Checked Fitted :=
  let found := results.filterMap fun (_, r) => r.toOption
  match (found.find? fun x => x.fit == .perfect).orElse fun _ => Fitted.best found with
  | some x => .ok x
  | none => .error (results.flatMap fun (name, r) => problems (under (.key name) r))

/-- The result for a union without null: that of its only type, or of the best choice. -/
def settle (results : List (String × Checked Fitted)) : Checked Fitted :=
  match results with
  | [(_, r)] => r
  | rs => choose rs

/-! ### All types -/

/-- What became of the fields of a model: their values, the names of those that were given, and how well
    these suit. -/
structure FieldResults where
  values : List (String × Value)
  given : List String
  fits : List Fit

mutual

/-- Checks a value against a type and converts it. -/
def check : FieldType → Value → Checked Fitted
  | any, v => checkAny v
  | int, v => Scalar.int v
  | float, v => Scalar.float v
  | bool, v => Scalar.bool v
  | text, v => Scalar.text v
  | instant, v => Scalar.instant v
  | nothing, v => if v.isNull then Checked.same v else problem "none_required"
  | list, v => checkList Checked.same v
  | dict, v => checkDict checkAny v
  | set, v => checkSet false checkAny v
  | frozenset, v => checkSet true checkAny v
  | tuple, v => checkTuple checkAny v
  | listOf _ any, v => checkList Checked.same v
  | listOf _ t, v => checkList (check t) v
  | dictOf t, v => checkDict (check t) v
  | setOf frozen t, v => checkSet frozen (check t) v
  | tupleOf t, v => checkTuple (check t) v
  | union _ ts, v =>
    if ts.any isNothing && v.isNull then Checked.same v else settle (checkChoices ts v)
  | model name fields, v => match v with
    | .entity layout _ => if layout.model = name then Checked.same v else problem "model_type"
    | .dict es => do
      let r ← checkFields es fields
      let fit : Fit := ⟨.converted, some r.given.length⟩
      .ok ⟨.entity (.ofFields name fields r.given) r.values, fit.meet (.meetAll r.fits)⟩
    | _ => problem "model_type"

/-- The results of the types of a union other than that of null, by name. -/
def checkChoices : List FieldType → Value → List (String × Checked Fitted)
  | [], _ => []
  | t :: ts, v => if t.isNothing then checkChoices ts v else (t.label, check t v) :: checkChoices ts v

/-- Checks the fields of a model against a dictionary by key. -/
def checkFields (input : List (String × Value)) :
    List (FieldInfo × FieldType) → Checked FieldResults
  | [] => .ok ⟨[], [], []⟩
  | (f, t) :: fields =>
    let rest := checkFields input fields
    match Row.get? input f.key with
    | some v => match under (.key f.key) (check t v) with
      | .ok x => rest.map fun r => ⟨(f.name, x.value) :: r.values, f.name :: r.given, x.fit :: r.fits⟩
      | .error ps => .error (ps ++ problems rest)
    | none => match f.default? with
      | some v => rest.map fun r => { r with values := (f.name, v) :: r.values }
      | none => .error (⟨[.key f.key], "missing"⟩ :: problems rest)

end

end FieldType

namespace Model

/-- An entity from a dictionary by key. -/
def validate (m : Model) (input : List (String × Value)) : Outcome Value :=
  match FieldType.checkFields input m.fields with
  | .ok r => .ok (.entity (.ofFields m.name m.fields r.given) r.values)
  | .error problems => .error (.invalidRecord problems)

/-- The first of some names under which a dictionary holds a value. -/
def heldUnder? (input : List (String × Value)) (names : List String) : Option String :=
  names.find? (Row.hasColumn input)

/-- Gives fields their values without checks: each field in turn takes the value under its key, else the
    one under its own name, and no value is taken twice; a field without one has its default, and one
    without a default is absent. -/
def fill (input : List (String × Value)) : List FieldInfo → List (String × Value) × List String
  | [] => ([], [])
  | f :: fields =>
    match heldUnder? input [f.key, f.name] with
    | some name =>
      let (values, given) := fill (Row.erase input name) fields
      ((f.name, Row.getD input name) :: values, f.name :: given)
    | none =>
      let (values, given) := fill input fields
      match f.default? with
      | some v => ((f.name, v) :: values, given)
      | none => (values, given)

/-- An entity from a dictionary without checks. -/
def construct (m : Model) (input : List (String × Value)) : Value :=
  let (values, given) := fill input m.fieldInfos
  .entity (.ofFields m.name m.fields given) values

end Model

end TableQuery
