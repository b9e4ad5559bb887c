import TableQuery.Selection.Deletion
import TableQuery.Store.Basic
import TableQuery.Writing.Creation
import TableQuery.Writing.Update

/-! Services: all operations on one table, under one policy for what may be written. -/

namespace TableQuery

/-- A table as callers give it: described, or by whatever they hold for its name. -/
inductive TableReference
  | described (t : Table)
  | named (v : Value)
  deriving Repr

namespace TableReference

/-- The table that is meant. -/
def resolve : TableReference → Outcome Table
  | described t => .ok t
  | named (.text s) => Compiler.ofQuery (Table.ofName (.text s))
  | named v => .error (.misuse (.tableKind v.kindName))

end TableReference

namespace Selection

/-- The selection of all rows of a table of a store. There is none without a store. -/
def ofStore (store : Option Store) (table : TableReference) (settings : Option Settings) :
    Outcome Selection :=
  match store with
  | none => .error (.misuse .executorKind)
  | some st => do
    let table ← table.resolve
    .ok (all st.dialect table (settings.getD st.settings))

end Selection

/-- What a service may write: lists of columns that may and may not be written, and of fields that are
    unique, singly and together. -/
structure WritePolicy where
  createAllowed : Value
  createDenied : Value
  updateAllowed : Value
  updateDenied : Value
  unique : Value
  uniqueTogether : Value
  deriving Repr

namespace WritePolicy

/-- The policy that restricts nothing. -/
def standard : WritePolicy := ⟨.tuple [], .tuple [], .tuple [], .tuple [], .tuple [], .tuple []⟩

end WritePolicy

/-- The operations on one table. -/
structure Service where
  store : Option Store
  table : Table
  model : Option Model
  policy : WritePolicy
  rules : List UniqueRule
  settings : Option Settings
  timeout : Value
  deriving Repr

namespace Service

/-- A service whose rules are taken from its policy. -/
def make (store : Option Store) (table : TableReference) (model : Option Model) (policy : WritePolicy)
    (settings : Option Settings) (timeout : Value) : Outcome Service := do
  let table ← table.resolve
  let rules ← UniqueRule.listOf policy.unique policy.uniqueTogether
  .ok ⟨store, table, model, policy, rules, settings, timeout⟩

/-! ### Selections and writers -/

/-- The selection of a query, of all rows if there is none. -/
def query (s : Service) (q : Option Query) : Outcome Selection := do
  let selection ← Selection.ofStore s.store (.described s.table) s.settings
  .ok { selection with model := s.model, query := q.getD Query.empty, timeout := s.timeout }

/-- A writer under lists of columns, of which an empty one stands for none. -/
def configure (s : Service) (selection : Selection) (allowed denied : Value) : Outcome Writer := do
  let w := Writer.ofSelection selection
  let w ←
    if allowed.isFalsy then .ok w
    else do Compiler.ofQuery (w.allowing (← UniqueRule.parts allowed))
  let w ←
    if denied.isFalsy then .ok w
    else do Compiler.ofQuery (w.denying (← UniqueRule.parts denied))
  .ok (w.withRules s.rules)

/-- The writer that inserts. -/
def creator (s : Service) : Outcome Writer := do
  let selection ← s.query none
  s.configure selection s.policy.createAllowed s.policy.createDenied

/-- The writer that updates the rows of a query. -/
def updater (s : Service) (q : Option Query) : Outcome Writer := do
  let selection ← s.query q
  s.configure selection s.policy.updateAllowed s.policy.updateDenied

/-! ### Operations -/

def get (s : Service) (q : Option Query) (timeout : Value) : Program (List Value) := do
  (← Program.lift (s.query q)).get timeout

def page (s : Service) (q : Option Query) (timeout : Value) : Program (Pager Value) := do
  (← Program.lift (s.query q)).page timeout

def first (s : Service) (q : Option Query) (timeout : Value) : Program Value := do
  (← Program.lift (s.query q)).first timeout

def find (s : Service) (id : Value) (q : Option Query) (timeout : Value) : Program Value := do
  (← Program.lift (s.query q)).find id timeout

def count (s : Service) (q : Option Query) (timeout : Value) : Program Int := do
  (← Program.lift (s.query q)).count timeout

def exist (s : Service) (q : Option Query) (timeout : Value) : Program Bool := do
  (← Program.lift (s.query q)).exist timeout

def existsById (s : Service) (id timeout : Value) : Program Bool := do
  (← Program.lift (s.query none)).existsById id timeout

/-- Inserts a record. -/
def create (s : Service) (now : Instant) (record timeout : Value) : Program Value := do
  (← Program.lift s.creator).create now record timeout

/-- Updates the row of a key. -/
def update (s : Service) (now : Instant) (id record timeout : Value) : Program Value := do
  (← Program.lift (s.updater none)).updateById now id record timeout

/-- Updates the rows of a query. -/
def updateWhere (s : Service) (now : Instant) (q : Option Query) (record timeout : Value) :
    Program Value := do
  (← Program.lift (s.updater q)).update now record timeout

/-- Deletes the rows of a query. -/
def delete (s : Service) (now : Instant) (q : Option Query) (timeout : Value) : Program Value := do
  (← Program.lift (s.query q)).delete now timeout

/-- Deletes the row of a key. -/
def deleteById (s : Service) (now : Instant) (id : Value) (extra : Option Query) (timeout : Value) :
    Program Value := do
  (← Program.lift (s.query none)).deleteById now id extra timeout

end Service

end TableQuery
