import TableQuery.Query.Basic

/-! Wire forms. What a value says as the wire form of a condition, a group, an order or a query is a relation beside
    the readers: reading is making from the parts that are said, and a value that says none is refused. -/

namespace TableQuery

/-- The items of a list or a tuple, the kinds of value that a sequence of parts can be. -/
def Value.sequence? : Value → Option (List Value)
  | .list xs => some xs
  | .tuple xs => some xs
  | _ => none

theorem Value.sequence?_eq_some {v : Value} {xs : List Value} :
    v.sequence? = some xs ↔ v = .list xs ∨ v = .tuple xs := by
  cases v <;> simp [sequence?]

namespace Condition
variable {raw field value op : Value}

/-- What the wire form of a condition says: field, value and operator. The operator stays out of account in a list if
    it is not text, and in an object if it counts as absent. -/
inductive Says : Value → Value → Value → Value → Prop
  | spelled {raw field value : Value} {op : String} {rest : List Value} :
    raw.sequence? = some (field :: value :: .text op :: rest) → Says raw field value (.text op)
  | unspelled {raw field value : Value} {rest : List Value} : raw.sequence? = some (field :: value :: rest) →
    (∀ op, rest.head? ≠ some (.text op)) → Says raw field value defaultOperator
  | entries {es : List (String × Value)} {field value : Value} : Row.get? es "field" = some field →
    Row.get? es "value" = some value → Says (.dict es) field value
      (if (Row.getD es "operator").isFalsy then defaultOperator else Row.getD es "operator")

theorem ofWire_eq_make (h : Says raw field value op) : ofWire raw = make field value op := by
  cases h with
  | spelled hitems => rcases Value.sequence?_eq_some.mp hitems with rfl | rfl <;> rfl
  | @unspelled _ _ _ rest hitems hrest =>
    cases rest with
    | nil => rcases Value.sequence?_eq_some.mp hitems with rfl | rfl <;> rfl
    | cons v rest =>
      -- A third item counts only if it is text.
      cases v with
      | text s => exact absurd rfl (hrest s)
      | _ => rcases Value.sequence?_eq_some.mp hitems with rfl | rfl <;> rfl
  | entries hfield hvalue => simp only [ofWire, hfield, hvalue]

theorem exists_operator {rest : List Value} (h : raw.sequence? = some (field :: value :: rest)) :
    ∃ op, Says raw field value op := by
  by_cases hrest : ∃ op, rest.head? = some (.text op)
  · obtain ⟨op, hop⟩ := hrest
    obtain ⟨rest, rfl⟩ := List.head?_eq_some_iff.mp hop
    exact ⟨_, .spelled h⟩
  · exact ⟨_, .unspelled h fun op hop => hrest ⟨op, hop⟩⟩

/-- A value that is not the wire form of a condition is refused for its shape. -/
theorem ofWire_eq_error (h : ∀ field value op, ¬ Says raw field value op) : ofWire raw = .error .conditionShape := by
  have hshort {items : List Value} (hitems : raw.sequence? = some items) : items = [] ∨ ∃ v, items = [v] := by
    match items with
    | [] => exact .inl rfl
    | [v] => exact .inr ⟨v, rfl⟩
    | field :: value :: rest =>
      obtain ⟨op, hop⟩ := exists_operator hitems
      exact absurd hop (h _ _ _)
  cases raw with
  | list items | tuple items => rcases hshort rfl with rfl | ⟨v, rfl⟩ <;> rfl
  | dict es =>
    cases hfield : Row.get? es "field" with
    | none => simp only [ofWire, hfield]
    | some field =>
      cases hvalue : Row.get? es "value" with
      | none => simp only [ofWire, hfield, hvalue]
      | some value => exact absurd (.entries hfield hvalue) (h _ _ _)
  | _ => rfl

end Condition

namespace Group
variable {raw connective : Value} {items : List Value}

/-- What the wire form of a group says: the wire forms of its conditions, and its connective. -/
inductive Says : Value → List Value → Value → Prop
  | items {raw : Value} {items : List Value} : raw.sequence? = some items → Says raw items .null
  | entries {es : List (String × Value)} {items : List Value} :
    ((Row.getD es "conditions").isFalsy = true ∧ items = []) ∨ (Row.getD es "conditions").sequence? = some items →
      Says (.dict es) items (if (Row.getD es "operator").isFalsy then .null else Row.getD es "operator")

theorem ofWire_eq_make (h : Says raw items connective) : ofWire raw = make items connective := by
  cases h with
  | items hitems => rcases Value.sequence?_eq_some.mp hitems with rfl | rfl <;> rfl
  | entries hitems =>
    unfold ofWire
    dsimp only
    rcases hitems with ⟨hfalsy, rfl⟩ | hitems
    · rw [if_pos hfalsy]
    · rcases Value.sequence?_eq_some.mp hitems with hv | hv
      all_goals
        rw [hv]
        -- An empty sequence counts as absent, which comes to the same.
        cases items <;> rfl

theorem ofWire_eq_error (h : ∀ items connective, ¬ Says raw items connective) :
    (∃ es, raw = .dict es ∧ ofWire raw = .error .groupConditions) ∨
      (∀ es, raw ≠ .dict es) ∧ ofWire raw = .error (.groupShape raw.kindName) := by
  cases raw with
  | list items | tuple items => exact absurd (.items rfl) (h items .null)
  | dict es =>
    refine .inl ⟨es, rfl, ?_⟩
    have hfalsy : ¬ (Row.getD es "conditions").isFalsy = true := fun hfalsy => h _ _ (.entries (.inl ⟨hfalsy, rfl⟩))
    have hitems : ∀ items, (Row.getD es "conditions").sequence? ≠ some items := fun _ hitems =>
      h _ _ (.entries (.inr hitems))
    unfold ofWire
    dsimp only
    rw [if_neg hfalsy]
    cases hv : Row.getD es "conditions" with
    | list items | tuple items => exact absurd (congrArg Value.sequence? hv) (hitems items)
    | _ => rfl
  | _ => exact .inr ⟨fun _ h => (nomatch h), rfl⟩

end Group

namespace OrderBy
variable {raw field : Value} {direction : Option Value}

/-- What the wire form of an order says: the field, and perhaps the direction. -/
inductive Says : Value → Value → Option Value → Prop
  | field {s : String} : Says (.text s) (.text s) none
  | single {raw field : Value} : raw.sequence? = some [field] → Says raw field none
  | pair {raw field direction : Value} : raw.sequence? = some [field, direction] → Says raw field (some direction)

theorem ofWire_eq_map (h : Says raw field direction) :
    ofWire raw = ((direction.map Direction.ofValue).getD (.ok .asc)).map fun d => ⟨field, d⟩ := by
  cases h with
  | field => rfl
  | single hitems => rcases Value.sequence?_eq_some.mp hitems with rfl | rfl <;> rfl
  | pair hitems => rcases Value.sequence?_eq_some.mp hitems with rfl | rfl <;> rfl

theorem ofWire_eq_error (h : ∀ field direction, ¬ Says raw field direction) : ofWire raw = .error .orderShape := by
  have hlong {items : List Value} (hitems : raw.sequence? = some items) :
      items = [] ∨ ∃ a b c rest, items = a :: b :: c :: rest := by
    match items with
    | [] => exact .inl rfl
    | [field] => exact absurd (.single hitems) (h _ _)
    | [field, direction] => exact absurd (.pair hitems) (h _ _)
    | a :: b :: c :: rest => exact .inr ⟨a, b, c, rest, rfl⟩
  cases raw with
  | text s => exact absurd .field (h _ _)
  | list items | tuple items => rcases hlong rfl with rfl | ⟨a, b, c, rest, rfl⟩ <;> rfl
  | _ => rfl

end OrderBy

namespace Query
variable {d : Value} {p : Parts}

/-- What the wire form of a query says: nothing, or the parts that stand in an object. The order may stand under
    either of its two names. -/
inductive Says : Value → Parts → Prop
  | nothing : Says .null ⟨.null, .null, .null, .null, .null, .null, .null, .null⟩
  | entries {es : List (String × Value)} {orderBy : Value} :
    (Row.getD es "order_by" ≠ .null ∧ orderBy = Row.getD es "order_by" ∨
      Row.getD es "order_by" = .null ∧ orderBy = Row.getD es "orderby") →
    Says (.dict es) { Parts.ofEntries es with orderBy }

theorem ofWire_eq_make (h : Says d p) : ofWire d = make p := by
  cases h with
  | nothing => rfl
  | @entries es orderBy horder =>
    unfold ofWire
    dsimp only
    have hsame : (Parts.ofEntries es).orderBy = Row.getD es "order_by" := rfl
    rw [hsame]
    rcases horder with ⟨hne, rfl⟩ | ⟨hnull, rfl⟩
    · cases horder : Row.getD es "order_by" with
      | null => exact absurd horder hne
      | _ => rfl
    · rw [hnull]

theorem ofWire_eq_error (h : ∀ p, ¬ Says d p) : ofWire d = .error (.notObject d.kindName) := by
  cases d with
  | null => exact absurd .nothing (h _)
  | dict es =>
    by_cases hnull : Row.getD es "order_by" = .null
    · exact absurd (.entries (.inr ⟨hnull, rfl⟩)) (h _)
    · exact absurd (.entries (.inl ⟨hnull, rfl⟩)) (h _)
  | _ => rfl

end Query
end TableQuery
