import TableQuery.Value.Key
import TableQuery.Value.Same

/-! Memos: what was made once for a key is kept and not made again. -/

namespace TableQuery

/-- Results by key, in the order in which they were made. -/
structure Memo (α : Type) where
  entries : List (Value × α)
  deriving Repr

namespace Memo

/-- The memo without results. -/
def empty {α : Type} : Memo α := ⟨[]⟩

def size {α : Type} (m : Memo α) : Nat := m.entries.length

/-- The result for a key, if there is one. -/
def get? {α : Type} (m : Memo α) (key : Value) : Outcome (Option α) := do
  let key ← key.asKey
  .ok ((m.entries.find? fun (k, _) => k.same key).map Prod.snd)

/-- Whether there is a result for a key. -/
def has {α : Type} (m : Memo α) (key : Value) : Outcome Bool := do
  let found ← m.get? key
  .ok found.isSome

/-- The memo with a result for a key that has none. -/
def insert {α : Type} (m : Memo α) (key : Value) (a : α) : Memo α := ⟨m.entries ++ [(key, a)]⟩

/-- The result for a key, which is made if there is none; then the memo holds it. A failure is not
    held. -/
def getOrMake {α : Type} (m : Memo α) (key : Value) (make : Outcome α) : Outcome (α × Memo α) := do
  match ← m.get? key with
  | some a => .ok (a, m)
  | none => do
    let a ← make
    .ok (a, m.insert key a)

end Memo

end TableQuery
