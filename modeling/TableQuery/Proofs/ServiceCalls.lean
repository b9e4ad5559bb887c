import TableQuery.Proofs.MalformedQueries
import TableQuery.Service

/-! The calls of a service as data. A call makes a writer from the policy of the service and runs one operation under
    it, so that what holds of the operations of all writers holds of the calls of all services. -/

namespace TableQuery
open Program

namespace Service

/-- A call with its arguments. -/
inductive Call
  | get (q : Option Query)
  | page (q : Option Query)
  | first (q : Option Query)
  | find (id : Value) (q : Option Query)
  | count (q : Option Query)
  | exist (q : Option Query)
  | existsById (id : Value)
  | create (now : Instant) (record : Value)
  | update (now : Instant) (id record : Value)
  | updateWhere (now : Instant) (q : Option Query) (record : Value)
  | delete (now : Instant) (q : Option Query)
  | deleteById (now : Instant) (id : Value) (extra : Option Query)

namespace Call

/-- The program of a call without its result. -/
def program (s : Service) (timeout : Value) : Call → Program Unit
  | get q => (s.get q timeout).void
  | page q => (s.page q timeout).void
  | first q => (s.first q timeout).void
  | find id q => (s.find id q timeout).void
  | count q => (s.count q timeout).void
  | exist q => (s.exist q timeout).void
  | existsById id => (s.existsById id timeout).void
  | create now record => (s.create now record timeout).void
  | update now id record => (s.update now id record timeout).void
  | updateWhere now q record => (s.updateWhere now q record timeout).void
  | delete now q => (s.delete now q timeout).void
  | deleteById now id extra => (s.deleteById now id extra timeout).void

/-- The operation that a call runs. -/
def operation : Call → Operation
  | get _ => .get
  | page _ => .page
  | first _ => .first
  | find id _ => .find id
  | count _ => .count
  | exist _ => .exist
  | existsById id => .existsById id
  | create now record => .create now record
  | update now id record => .updateById now id record
  | updateWhere now _ record => .update now record
  | delete now _ => .delete now
  | deleteById now id extra => .deleteById now id extra

/-- The writer that a call makes. What only reads or deletes needs no more than a selection. -/
def writer (s : Service) : Call → Outcome Writer
  | get q | page q | first q | find _ q | count q | exist q | delete _ q => (s.query q).map .ofSelection
  | existsById _ | deleteById .. => (s.query none).map .ofSelection
  | create .. => s.creator
  | update .. => s.updater none
  | updateWhere _ q _ => s.updater q

theorem lift_bind_void {α β γ : Type} (r : Outcome α) (f : α → β) (k : α → Program γ) (op : β → Program Unit)
    (h : ∀ a, op (f a) = (k a).void) : (lift r >>= k).void = lift (r.map f) >>= op := by
  cases r with
  | ok a => exact (h a).symm
  | error e => rfl

/-- A call makes its writer and then runs its operation. -/
theorem program_eq (s : Service) (timeout : Value) (call : Call) :
    call.program s timeout = lift (call.writer s) >>= fun w => call.operation.program w timeout := by
  have hmap {r : Outcome Writer} : r.map id = r := by cases r <;> rfl
  cases call with
  | create now record =>
    rw [← hmap (r := writer s _)]
    exact lift_bind_void _ _ _ _ fun _ => rfl
  | update now id record =>
    rw [← hmap (r := writer s _)]
    exact lift_bind_void _ _ _ _ fun _ => rfl
  | updateWhere now q record =>
    rw [← hmap (r := writer s _)]
    exact lift_bind_void _ _ _ _ fun _ => rfl
  | _ => exact lift_bind_void _ _ _ _ fun _ => rfl

variable {s : Service} {timeout : Value} {call : Call}

theorem always_program {asked : Request → Prop}
    (h : ∀ w, call.writer s = .ok w → (call.operation.program w timeout).Always asked fun _ => True) :
    (call.program s timeout).Always asked fun _ => True := by
  rw [program_eq]
  exact always_lift_bind.mpr h

theorem refuses_program (h : ∀ w, call.writer s = .ok w → (call.operation.program w timeout).Refuses) :
    (call.program s timeout).Refuses := by
  rw [program_eq]
  exact refuses_lift_bind h

end Call

/-! ### The writers of a service -/

section
variable {s : Service} {q : Option Query} {selection : Selection} {w : Writer}

theorem query_eq_ok (h : s.query q = .ok selection) : selection.table = s.table ∧ selection.raw = [] := by
  obtain ⟨all, hall, h⟩ := bind_eq_ok.mp h
  cases h
  unfold Selection.ofStore at hall
  split at hall
  · cases hall
  · cases hall
    exact ⟨rfl, rfl⟩

/-- A policy changes nothing about a writer but its columns, and the rules are those of the service. -/
theorem configure_eq_ok {allowed denied : Value} (h : s.configure selection allowed denied = .ok w) :
    w.selection = selection ∧ w.rules = s.rules := by
  have hdenied {base : Writer} (h : (if denied.isFalsy then .ok base >>= fun w => .ok (w.withRules s.rules)
      else UniqueRule.parts denied >>= fun parts => Compiler.ofQuery (base.denying parts) >>= fun w =>
        .ok (w.withRules s.rules)) = (.ok w : Outcome Writer)) :
      w.selection = base.selection ∧ w.rules = base.rules ++ s.rules := by
    split at h
    · cases h
      exact ⟨rfl, rfl⟩
    · obtain ⟨parts, -, h⟩ := bind_eq_ok.mp h
      obtain ⟨denying, hdenying, h⟩ := bind_eq_ok.mp h
      obtain ⟨policy, -, hpolicy⟩ := bind_eq_ok.mp (Compiler.ofQuery_eq_ok.mp hdenying)
      cases hpolicy
      cases h
      exact ⟨rfl, rfl⟩
  unfold configure at h
  dsimp only at h
  split at h
  · exact hdenied h
  · obtain ⟨parts, -, h⟩ := bind_eq_ok.mp h
    obtain ⟨allowing, hallowing, h⟩ := bind_eq_ok.mp h
    obtain ⟨policy, -, hpolicy⟩ := bind_eq_ok.mp (Compiler.ofQuery_eq_ok.mp hallowing)
    cases hpolicy
    exact hdenied h

/-- Every writer of a service is about its table, has no conditions in statement text, and no rules but its own. -/
theorem Call.writer_eq_ok {call : Call} (h : call.writer s = .ok w) :
    w.selection.table = s.table ∧ w.selection.raw = [] ∧ ∀ rule ∈ w.rules, rule ∈ s.rules := by
  have hread : ∀ {q}, (s.query q).map Writer.ofSelection = .ok w →
      w.selection.table = s.table ∧ w.selection.raw = [] ∧ ∀ rule ∈ w.rules, rule ∈ s.rules := by
    intro q h
    cases hq : s.query q with
    | error e =>
      rw [hq] at h
      cases h
    | ok selection =>
      rw [hq] at h
      cases h
      exact ⟨(query_eq_ok hq).1, (query_eq_ok hq).2, fun rule hrule => nomatch hrule⟩
  have hwrite : ∀ {q allowed denied}, (s.query q >>= fun selection => s.configure selection allowed denied) = .ok w →
      w.selection.table = s.table ∧ w.selection.raw = [] ∧ ∀ rule ∈ w.rules, rule ∈ s.rules := by
    intro q allowed denied h
    obtain ⟨selection, hq, h⟩ := bind_eq_ok.mp h
    obtain ⟨hselection, hrules⟩ := configure_eq_ok h
    rw [hselection, hrules]
    exact ⟨(query_eq_ok hq).1, (query_eq_ok hq).2, fun rule hrule => hrule⟩
  cases call with
  | create now record => exact hwrite h
  | update now id record => exact hwrite h
  | updateWhere now q record => exact hwrite h
  | _ => exact hread h

end
end Service
end TableQuery
