import TableQuery.Program

/-! What a program asks, whatever the store answers and whatever keys are drawn. `Always` says of every
    statement that a program can come to, and of every result that it can end with, that it has a property;
    a failure is allowed anywhere. It goes through `bind` as a precondition does, so that an operation is
    taken apart step by step. -/

namespace TableQuery
namespace Program

/-- Every request that the program can come to satisfies `asked`, and every result `ended`. -/
def Always {α : Type} (asked : Request → Prop) (ended : α → Prop) : Program α → Prop
  | .done a => ended a
  | .fail _ => True
  | .ask r next => asked r ∧ ∀ answer, (next answer).Always asked ended
  | .draw next => ∀ key, (next key).Always asked ended

/-- The program can end with a result: for some answers and some keys it does. -/
def CanEnd {α : Type} : Program α → α → Prop
  | .done a, b => a = b
  | .fail _, _ => False
  | .ask _ next, b => ∃ answer, (next answer).CanEnd b
  | .draw next, b => ∃ key, (next key).CanEnd b

/-- The program can ask a request: for some answers and some keys it comes to it. -/
def CanAsk {α : Type} : Program α → Request → Prop
  | .done _, _ => False
  | .fail _, _ => False
  | .ask r next, r' => r = r' ∨ ∃ answer, (next answer).CanAsk r'
  | .draw next, r' => ∃ key, (next key).CanAsk r'

/-- The program with its result left out. -/
def void {α : Type} (p : Program α) : Program Unit := bind p fun _ => done ()

section
variable {α β : Type} {asked : Request → Prop} {ended : α → Prop}

@[simp]
theorem always_done {a : α} : (done a).Always asked ended ↔ ended a := Iff.rfl

@[simp]
theorem always_fail {f : Failure} : (fail f : Program α).Always asked ended := trivial

theorem Always.mono {asked' : Request → Prop} {ended' : α → Prop} (hr : ∀ r, asked r → asked' r)
    (he : ∀ a, ended a → ended' a) : ∀ {p : Program α}, p.Always asked ended → p.Always asked' ended'
  | .done a, h => he a h
  | .fail _, _ => trivial
  | .ask r _, h => ⟨hr r h.1, fun answer => (h.2 answer).mono hr he⟩
  | .draw _, h => fun key => (h key).mono hr he

/-- What a program always ends with may be narrowed to what it can end with. -/
theorem Always.canEnd : ∀ {p : Program α}, p.Always asked ended → p.Always asked fun a => ended a ∧ p.CanEnd a
  | .done _, h => ⟨h, rfl⟩
  | .fail _, _ => trivial
  | .ask _ _, h => ⟨h.1, fun answer => (h.2 answer).canEnd.mono (fun _ h => h) fun _ h => ⟨h.1, answer, h.2⟩⟩
  | .draw _, h => fun key => (h key).canEnd.mono (fun _ h => h) fun _ h => ⟨h.1, key, h.2⟩

/-- What follows a program has to satisfy its part from each result that the program can end with. -/
theorem always_bind {ended : β → Prop} {k : α → Program β} :
    ∀ {p : Program α}, (p >>= k).Always asked ended ↔ p.Always asked fun a => (k a).Always asked ended
  | .done _ => Iff.rfl
  | .fail _ => Iff.rfl
  | .ask _ _ => and_congr_right fun _ => forall_congr' fun _ => always_bind
  | .draw _ => forall_congr' fun _ => always_bind

/-- A program and what follows it, whatever it ends with. -/
theorem Always.bind {ended : β → Prop} {p : Program α} {k : α → Program β} (hp : p.Always asked fun _ => True)
    (hk : ∀ a, (k a).Always asked ended) : (p >>= k).Always asked ended :=
  always_bind.mpr (hp.mono (fun _ h => h) fun a _ => hk a)

@[simp]
theorem always_lift {r : Outcome α} : (lift r).Always asked ended ↔ ∀ a, r = .ok a → ended a := by
  cases r with
  | ok a => simp [lift]
  | error f => simp [lift]

theorem always_lift_bind {ended : β → Prop} {r : Outcome α} {k : α → Program β} :
    (lift r >>= k).Always asked ended ↔ ∀ a, r = .ok a → (k a).Always asked ended := by
  rw [always_bind, always_lift]

@[simp]
theorem always_fetchRows {ended : List Row → Prop} {st : Statement} {timeout : Value} :
    (fetchRows st timeout).Always asked ended ↔ asked ⟨.rows, st, timeout⟩ ∧ ∀ rows, ended rows := Iff.rfl

@[simp]
theorem always_fetchRow? {ended : Option Row → Prop} {st : Statement} {timeout : Value} :
    (fetchRow? st timeout).Always asked ended ↔
      asked ⟨.rows, st, timeout⟩ ∧ ∀ rows : List Row, ended rows.head? := Iff.rfl

@[simp]
theorem always_fetchValue {ended : Value → Prop} {st : Statement} {timeout : Value} :
    (fetchValue st timeout).Always asked ended ↔ asked ⟨.value, st, timeout⟩ ∧ ∀ v, ended v := Iff.rfl

@[simp]
theorem always_write {ended : WriteResult → Prop} {st : Statement} {returning : Bool} {timeout : Value} :
    (write st returning timeout).Always asked ended ↔
      asked ⟨.write returning, st, timeout⟩ ∧ ∀ result, ended result := Iff.rfl

theorem canEnd_bind {k : α → Program β} {a : α} {b : β} (hk : (k a).CanEnd b) :
    ∀ {p : Program α}, p.CanEnd a → (p >>= k).CanEnd b
  | .done _, h => by
    cases h
    exact hk
  | .ask _ _, ⟨answer, h⟩ => ⟨answer, canEnd_bind hk h⟩
  | .draw _, ⟨key, h⟩ => ⟨key, canEnd_bind hk h⟩

/-- What follows a program is asked after it, if the program can end with the result for it. -/
theorem canAsk_bind {k : α → Program β} {a : α} {r : Request} (hk : (k a).CanAsk r) :
    ∀ {p : Program α}, p.CanEnd a → (p >>= k).CanAsk r
  | .done _, h => by
    cases h
    exact hk
  | .ask _ _, ⟨answer, h⟩ => .inr ⟨answer, canAsk_bind hk h⟩
  | .draw _, ⟨key, h⟩ => ⟨key, canAsk_bind hk h⟩

theorem canEnd_lift {r : Outcome α} {a : α} (h : r = .ok a) : (lift r).CanEnd a := by
  rw [h]
  exact rfl

theorem canAsk_bind_left {k : α → Program β} {r : Request} :
    ∀ {p : Program α}, p.CanAsk r → (p >>= k).CanAsk r
  | .ask _ _, .inl h => .inl h
  | .ask _ _, .inr ⟨answer, h⟩ => .inr ⟨answer, canAsk_bind_left h⟩
  | .draw _, ⟨key, h⟩ => ⟨key, canAsk_bind_left h⟩

theorem always_void {p : Program α} :
    p.void.Always asked (fun _ => True) ↔ p.Always asked fun _ => True := always_bind

end
end Program
end TableQuery
