import TableQuery.Proofs.Conjuncts
import TableQuery.Proofs.Histories
import TableQuery.Proofs.KeyTest

/-! Operations by key. Whatever an operation by key asks of its own table, it asks with the condition on the
    primary key, so that the statement reaches the row of that key only, except where the condition is left
    out; then the statement is restricted by everything but the key. -/

namespace TableQuery
open Program

/-! ### Requests that are not about the row of the key -/

namespace Request

/-- A probe of a uniqueness rule of the table. -/
def IsProbe (w : Writer) (r : Request) : Prop :=
  ∃ u pairs id excluded, u.dialect = w.selection.dialect ∧ u.table = w.selection.table ∧
    r.kind = .value ∧ r.statement = Uniqueness.probe u pairs id excluded

/-- The loading of a relation. -/
def IsPreload (w : Writer) (r : Request) : Prop :=
  ∃ link target keys, r.kind = .rows ∧ r.statement = Preload.statement w.selection.dialect link target keys

/-- The insertion of a row. -/
def IsInsertion (w : Writer) (r : Request) : Prop :=
  ∃ returning row ending, r.kind = .write returning ∧
    r.statement = { w.insertion row with sql := (w.insertion row).sql ++ ending }

end Request

namespace Operation

def isByKey : Operation → Bool
  | find _ | existsById _ | create .. | updateById .. | deleteById .. => true
  | _ => false

/-- The key of an operation, given what went before, and what restricts its statements apart from the key. A
    created row is read back by the key that was inserted, else by the one that the store reports. -/
inductive Keys (w : Writer) (past : List Exchange) : Operation → Value → Selection → Query → Prop
  | find (id : Value) : Keys w past (.find id) id w.selection w.selection.query
  | existsById (id : Value) : Keys w past (.existsById id) id w.selection w.selection.query
  | updateById (now : Instant) (id record : Value) :
    Keys w past (.updateById now id record) id w.selection w.selection.query
  | updated (now : Instant) (id record : Value) : Keys w past (.updateById now id record) id w.reader .empty
  | deleteById (now : Instant) (id : Value) (extra : Option Query) :
    Keys w past (.deleteById now id extra) id w.selection (w.selection.deletedAmong extra)
  | created (now : Instant) (record : Value) (row : Row) (timeout : Value) (result : WriteResult) :
    Exchange.answered ⟨.write false, w.insertion row, timeout⟩ result ∈ past →
    Keys w past (.create now record) ((row.get? w.selection.table.primaryKey).getD result.lastRowId)
      w.reader.unscoped .empty

/-- A statement on the table that the condition on the primary key restricts, unless it is left out. -/
structure ReachesKey (w : Writer) (s : Selection) (q : Query) (id : Value) (p : Predicate) (st : Statement) :
    Prop where
  stands : st.Over w p
  kept : ¬ s.DropsKey id → p.HasPart (s.keyTest id) ∧ (w.selection.dialect ≠ .generic →
    ∃ i, st.Assigns i ("(" ++ s.dialect.quote s.table.primaryKey ++ " = ") id)
  dropped : s.DropsKey id → s.Conjoins q p

/-- A request that an operation by key may make: a probe of a rule, the loading of a relation, the insertion of
    the row to create, or a statement that reaches the key. -/
def AsksByKey (w : Writer) (op : Operation) (past : List Exchange) (r : Request) : Prop :=
  r.IsProbe w ∨ r.IsPreload w ∨ (∃ now record, op = .create now record ∧ r.IsInsertion w) ∨
    ∃ id s q p, op.Keys w past id s q ∧ ReachesKey w s q id p r.statement

section
variable {w : Writer} {op : Operation} {past : List Exchange} {s : Selection} {q q' : Query} {id timeout : Value}
  {p : Predicate} {st : Statement} {kind : RequestKind}

theorem reachesKey (hs : s.dialect = w.selection.dialect) (hover : st.Over w p) (h : s.RestrictedToKey q id p) :
    ReachesKey w s q id p st := by
  refine ⟨hover, fun hkept => ?_, h.dropped⟩
  obtain ⟨before, after, hp, hbefore⟩ := h.kept hkept
  have hkey : s.keyTest id = ⟨"(" ++ s.dialect.quote s.table.primaryKey ++ " = " ++ "?" ++ ")", [id]⟩ := by
    simp only [Selection.keyTest, String.append_assoc]
    rfl
  refine ⟨⟨?_, before, after, hp⟩, fun hd => ?_⟩
  · simp [Selection.keyTest, Predicate.isNone]
  · rw [hkey] at hp
    have hmarked : Marked ("(" ++ s.dialect.quote s.table.primaryKey ++ " = ") 0 := by
      rw [hs]
      exact ((by decide : Marked "(" 0).append (marked_quoted hd _)).append (by decide : Marked " = " 0)
    exact hover.assigns hd hp hbefore hmarked

theorem asksByKey_reached (hkeys : op.Keys w past id s q) (hs : s.dialect = w.selection.dialect)
    (hover : st.Over w p) (h : s.RestrictedToKey q id p) : op.AsksByKey w past ⟨kind, st, timeout⟩ :=
  .inr (.inr (.inr ⟨id, s, q, p, hkeys, reachesKey hs hover h⟩))

theorem asksByKey_preload (hs : s.dialect = w.selection.dialect) (link : Link) (target : Table)
    (keys : List Value) : op.AsksByKey w past ⟨.rows, Preload.statement s.dialect link target keys, timeout⟩ :=
  .inr (.inl ⟨link, target, keys, rfl, by rw [hs]⟩)

/-- The probes of the rules of a writer, or of some of them. -/
theorem asksByKey_probe (rules : List UniqueRule) (pairs : List (String × Value)) (excludedId : Value)
    (excluded : Predicate) : op.AsksByKey w past
      ⟨.value, { w.uniqueness with rules }.probe pairs excludedId excluded, timeout⟩ :=
  .inl ⟨_, pairs, excludedId, excluded, rfl, rfl, rfl, rfl⟩

/-- A selection of the same table finds a row by its key. -/
theorem always_find_asksByKey (hd : s.dialect = w.selection.dialect) (ht : s.table = w.selection.table)
    (hkeys : op.Keys w past id s s.query) :
    (s.find id timeout).Always (op.AsksByKey w past) fun _ => True := by
  refine Selection.always_find (fun _ statement hq hreads => ?_) fun link target keys _ => asksByKey_preload hd link target keys
  have hover := Statement.Over.rows (w := w) statement (hreads.table.trans (by rw [ht])) rfl
  rw [← hd] at hover
  exact asksByKey_reached hkeys hd hover (Selection.restrictedToKey_queryById hq hreads.restriction)

theorem always_existsById_asksByKey (timeout : Value) :
    (w.selection.existsById id timeout).Always (AsksByKey w (.existsById id) past) fun _ => True :=
  Selection.always_existsById fun _ statement hq hreads => asksByKey_reached (.existsById id) rfl
    (.count statement hreads.table rfl) (Selection.restrictedToKey_queryById hq hreads.restriction)

theorem always_updateById_asksByKey (now : Instant) (record timeout : Value) :
    (w.updateById now id record timeout).Always (AsksByKey w (.updateById now id record) past) fun _ => True := by
  refine Writer.always_updateById ?_ ?_ ?_ ?_
  · exact fun _ _ hq hp => asksByKey_reached (.updateById now id record) rfl .probing
      (Selection.restrictedToKey_queryById hq hp)
  · exact fun row current check _ => asksByKey_probe _ check.2 id .none
  · exact fun _ row _ hq hp _ => asksByKey_reached (.updateById now id record) rfl (.updating row)
      (Selection.restrictedToKey_queryById hq hp)
  · exact always_find_asksByKey rfl rfl (.updated now id record)

theorem always_deleteById_asksByKey (now : Instant) (extra : Option Query) (timeout : Value) :
    (w.selection.deleteById now id extra timeout).Always (AsksByKey w (.deleteById now id extra) past)
      fun _ => True :=
  Selection.always_deleteById
    (fun _ statement hq hreads => asksByKey_reached (.deleteById now id extra) rfl
      (.count statement hreads.table rfl) (Selection.restrictedToKey_deletionQuery hq hreads.restriction))
    fun _ _ hq hp => asksByKey_reached (.deleteById now id extra) rfl (.deletion now)
      (Selection.restrictedToKey_deletionQuery hq hp)

theorem AsksByKey.append {r : Request} (more : List Exchange) (h : op.AsksByKey w past r) :
    op.AsksByKey w (past ++ more) r := by
  rcases h with h | h | h | ⟨id, s, q, p, hkeys, h⟩
  · exact .inl h
  · exact .inr (.inl h)
  · exact .inr (.inr (.inl h))
  · refine .inr (.inr (.inr ⟨id, s, q, p, ?_, h⟩))
    cases hkeys with
    | find id => exact .find id
    | existsById id => exact .existsById id
    | updateById now id record => exact .updateById now id record
    | updated now id record => exact .updated now id record
    | deleteById now id extra => exact .deleteById now id extra
    | created now record row timeout result hmem =>
      exact .created now record row timeout result (List.mem_append_left more hmem)

theorem along_of_always {α : Type} {prog : Program α} (h : prog.Always (op.AsksByKey w past) fun _ => True) :
    prog.Along (op.AsksByKey w) (fun _ _ => True) past := h.along_of_append fun more _ hr => hr.append more

/-- A creation reads back by the key of the row that it inserted. -/
theorem along_create_asksByKey (now : Instant) (record timeout : Value) :
    (w.create now record timeout).Along (AsksByKey w (.create now record)) (fun _ _ => True) past := by
  refine Writer.along_create (fun _ more _ h => h.append more) ?_ ?_ ?_ ?_
  · exact fun _ _ check _ => asksByKey_probe w.rules check.2 .null .none
  · exact fun _ row => .inr (.inr (.inl ⟨now, record, rfl, true, row, " RETURNING *", rfl, rfl⟩))
  · exact fun _ row => .inr (.inr (.inl ⟨now, record, rfl, false, row, "", rfl, by simp⟩))
  · exact fun _ row result hmem => always_find_asksByKey rfl rfl (.created now record row _ result hmem)

/-- Every statement that an operation by key asks of its own table, the probes of uniqueness rules and the
    insertion of a new row apart, has the test of the primary key in its `WHERE` part, with the key bound to it:
    unless the key is blank and the primary key is not one of the fields that are tested nevertheless. Then
    nothing of the key is left, and the statement reaches all that the query, the conditions in statement text
    and the stamp let through. -/
theorem statements_keyed (w : Writer) (op : Operation) (timeout : Value) (hkey : op.isByKey = true) :
    (op.program w timeout).Along (op.AsksByKey w) (fun _ _ => True) [] := by
  cases op with
  | find id => exact along_of_always (always_void.mpr (always_find_asksByKey rfl rfl (.find id)))
  | existsById id => exact along_of_always (always_void.mpr (always_existsById_asksByKey timeout))
  | create now record =>
    exact along_bind.mpr ((along_create_asksByKey now record timeout).mono fun _ _ _ => trivial)
  | updateById now id record =>
    exact along_of_always (always_void.mpr (always_updateById_asksByKey now record timeout))
  | deleteById now id extra =>
    exact along_of_always (always_void.mpr (always_deleteById_asksByKey now extra timeout))
  | _ => exact (nomatch hkey)

end

/-- A deletion by null from a table whose primary key may be left out. -/
theorem statements_keyed_things :
    let things : Table := ⟨"things", "uuid", false, none, none, none, []⟩
    let w : Writer := .ofSelection (.all .sqlite things .standard)
    let op := deleteById ⟨⟨2024, 1, 1⟩, ⟨0, 0, 0, 0, none⟩⟩ .null none
    (op.isByKey = true ∧ w.selection.DropsKey .null) ∧
      (op.program w .null).Along (op.AsksByKey w) (fun _ _ => True) [] := by
  intro things w op
  exact ⟨⟨rfl, rfl, by decide⟩, statements_keyed w op .null rfl⟩

end Operation
end TableQuery
