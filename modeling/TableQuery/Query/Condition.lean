import TableQuery.Query.Operator

/-! Conditions: a field, an operator and what to compare with; and groups of conditions. -/

namespace TableQuery

/-- One test of a field. Sequences are held as tuples. -/
structure Condition where
  field : String
  value : Value
  operator : Operator
  deriving BEq, Repr, Inhabited

namespace Condition

/-- A list, tuple or set as a tuple; any other value unchanged. -/
def sealed (v : Value) : Value :=
  match v.items? with
  | some xs => .tuple xs
  | none => v

/-- The first member of a sequence that is not a single value. -/
def nonScalar? (xs : List Value) : Option Value := xs.find? fun x => !x.isScalar

/-- Refuses a sequence with a member that is not a single value. -/
def checkMembers (field : String) (op : Operator) (xs : List Value) : Except QueryError Unit :=
  match nonScalar? xs with
  | some x => .error (.memberKind op.spelling x.kindName field)
  | none => .ok ()

/-- Refuses a value that the operator cannot take. Membership takes a sequence, a range two values,
    every other operator a single value. A test for null takes anything, and so does every operator
    when there is nothing to search for. -/
def checkValue (field : String) (op : Operator) (v : Value) : Except QueryError Unit :=
  if op.isNullCheck || v.isBlankValue then .ok ()
  else if op.isMembership then
    match v with
    | .tuple xs => checkMembers field op xs
    | _ => .error (.needsSequence op.spelling field)
  else if op.isRange then
    match v with
    | .tuple xs =>
      if xs.length = 2 then checkMembers field op xs else .error (.needsPair op.spelling field)
    | _ => .error (.needsPair op.spelling field)
  else if v.isScalar then .ok ()
  else .error (.needsScalar op.spelling v.kindName field)

/-- A condition from its parts. -/
def make (field value operator : Value) : Except QueryError Condition :=
  match field with
  | .text name => do
    let op ← Operator.ofValue operator
    let value := sealed value
    checkValue name op value
    .ok ⟨name, value, op⟩
  | _ => .error .conditionField

/-- The spelling of the operator that stands in when none is given. -/
def defaultOperator : Value := .text Operator.eq.spelling

/-- Reads a condition from its wire form: an object with `field`, `value` and perhaps `operator`, or a
    list of two or three. In a list an operator that is not text is passed over. -/
def ofWire (raw : Value) : Except QueryError Condition :=
  let ofItems (items : List Value) : Except QueryError Condition :=
    match items with
    | field :: value :: .text op :: _ => make field value (.text op)
    | field :: value :: _ => make field value defaultOperator
    | _ => .error .conditionShape
  match raw with
  | .dict entries =>
    match Row.get? entries "field", Row.get? entries "value" with
    | some field, some value =>
      let op := Row.getD entries "operator"
      make field value (if op.isFalsy then defaultOperator else op)
    | _, _ => .error .conditionShape
  | .list items => ofItems items
  | .tuple items => ofItems items
  | _ => .error .conditionShape

/-- A tuple as a list; any other value unchanged. -/
def unsealed (v : Value) : Value :=
  match v with
  | .tuple xs => .list xs
  | v => v

/-- The wire form: field, value and the canonical spelling of the operator. -/
def toWire (c : Condition) : Value :=
  .list [.text c.field, unsealed c.value, .text c.operator.spelling]

end Condition

/-- Conditions joined by one connective. -/
structure Group where
  conditions : List Condition
  connective : Connective
  deriving BEq, Repr, Inhabited

namespace Group

/-- A group from the wire forms of its conditions and of its connective. -/
def make (conditions : List Value) (connective : Value) : Except QueryError Group := do
  let conditions ← conditions.mapM Condition.ofWire
  let connective ← Connective.ofValue connective
  .ok ⟨conditions, connective⟩

/-- Reads a group from its wire form: an object with `conditions` and perhaps `operator`, or a bare list
    of conditions, all of which have to hold. -/
def ofWire (raw : Value) : Except QueryError Group :=
  match raw with
  | .dict entries =>
    let conditions := Row.getD entries "conditions"
    let op := Row.getD entries "operator"
    let connective := if op.isFalsy then .null else op
    if conditions.isFalsy then make [] connective
    else match conditions with
      | .list items => make items connective
      | .tuple items => make items connective
      | _ => .error .groupConditions
  | .list items => make items .null
  | .tuple items => make items .null
  | v => .error (.groupShape v.kindName)

/-- The fields that the conditions test, in order. -/
def fields (g : Group) : List String := g.conditions.map Condition.field

/-- The wire form. -/
def toWire (g : Group) : Value :=
  .dict [("conditions", .list (g.conditions.map Condition.toWire)),
         ("operator", .text g.connective.spelling)]

end Group

end TableQuery
