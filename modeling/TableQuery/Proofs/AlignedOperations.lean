import TableQuery.Proofs.Assignments

/-! Alignment of everything that is asked: whatever the store answers, each statement of each operation has one
    parameter for each of its placeholders, and what an operation writes goes where it belongs. -/

namespace TableQuery
open Program

namespace Operation

/-- A request that an operation may make: its statement is aligned, and if it changes rows, it does so as the
    operation may. -/
def Fits (w : Writer) (op : Operation) (r : Request) : Prop :=
  r.statement.Aligned ∧ ∀ returning, r.kind = .write returning → op.MayWrite w r.statement

section
variable {w : Writer} {op : Operation} {st : Statement} {timeout : Value}

theorem fits_rows (h : st.Aligned) : op.Fits w ⟨.rows, st, timeout⟩ := ⟨h, fun _ hk => nomatch hk⟩

theorem fits_value (h : st.Aligned) : op.Fits w ⟨.value, st, timeout⟩ := ⟨h, fun _ hk => nomatch hk⟩

theorem fits_write {returning : Bool} (h : st.Aligned) (hw : op.MayWrite w st) :
    op.Fits w ⟨.write returning, st, timeout⟩ := ⟨h, fun _ _ => hw⟩

end

section
variable {w : Writer} {op : Operation} {s : Selection} {timeout : Value}
  (hd : s.dialect ≠ .generic) (hraw : ∀ r ∈ s.raw, r.Aligned)
include hd hraw

theorem fits_rows_of_reads {q : Query} {statement : Select} (h : s.Reads q statement) :
    op.Fits w ⟨.rows, statement.rows s.dialect, timeout⟩ :=
  fits_rows (Select.aligned_rows hd (Selection.aligned_predicate hd hraw h.restriction))

theorem fits_count_of_reads {q : Query} {statement : Select} (h : s.Reads q statement) :
    op.Fits w ⟨.value, statement.count s.dialect, timeout⟩ :=
  fits_value (Select.aligned_count hd (Selection.aligned_predicate hd hraw h.restriction))

theorem fits_aggregate_of_reads {q : Query} {statement : Select} {function column : String}
    (hf : Marked function 0) (h : s.Reads q statement) :
    op.Fits w ⟨.value, statement.aggregate s.dialect function column, timeout⟩ :=
  fits_value (Select.aligned_aggregate hd hf (Selection.aligned_predicate hd hraw h.restriction))

omit hraw in
theorem fits_preload (link : Link) (target : Table) (keys : List Value) :
    op.Fits w ⟨.rows, Preload.statement s.dialect link target keys, timeout⟩ :=
  fits_rows (Preload.aligned_statement hd link target keys)

theorem always_find_fits (id : Value) : (s.find id timeout).Always (op.Fits w) fun _ => True :=
  Selection.always_find (fun _ _ _ h => fits_rows_of_reads hd hraw h) fun link target keys _ => fits_preload hd link target keys

end

section
variable {w : Writer} (hd : w.selection.dialect ≠ .generic)
include hd

theorem fits_probe {op : Operation} {u : Uniqueness} (hu : u.dialect = w.selection.dialect)
    (pairs : List (String × Value)) (id : Value) {excluded : Predicate} (he : excluded.Aligned) {timeout : Value} :
    op.Fits w ⟨.value, u.probe pairs id excluded, timeout⟩ :=
  fits_value (Uniqueness.aligned_probe (hu.symm ▸ hd) pairs id he)

theorem always_create_fits (now : Instant) (record timeout : Value) :
    (w.create now record timeout).Always (Fits w (.create now record)) fun _ => True := by
  refine Writer.always_create ?_ ?_ ?_ ?_
  · exact fun row check _ => fits_probe hd rfl check.2 .null Predicate.aligned_none
  · exact fun row hrow _ => fits_write (Writer.aligned_insertion hd row (by decide : Marked " RETURNING *" 0))
      ⟨row, hrow, Writer.inserts_insertion hd row " RETURNING *"⟩
  · intro row hrow
    have haligned := Writer.aligned_insertion hd row (by decide : Marked "" 0)
    have hinserts := Writer.inserts_insertion hd row ""
    rw [String.append_empty] at haligned hinserts
    exact fits_write haligned ⟨row, hrow, hinserts⟩
  · exact fun id => always_find_fits (s := w.reader.unscoped) hd (fun _ h => nomatch h) id

variable (hraw : ∀ r ∈ w.selection.raw, r.Aligned)
include hraw

theorem always_update_fits (now : Instant) (record timeout : Value) :
    (w.update now record timeout).Always (Fits w (.update now record)) fun _ => True := by
  refine Writer.always_update ?_ ?_ ?_
  · exact fun row p hp check _ => fits_probe hd rfl check.2 .null (Selection.aligned_predicate hd hraw hp)
  · exact fun p hp => fits_value (Writer.aligned_counting hd (Selection.aligned_predicate hd hraw hp))
  · exact fun row p _ _ hp hrow _ => fits_write (Writer.aligned_updating hd (Selection.aligned_predicate hd hraw hp))
      ⟨row, hrow, Writer.updates_updating hd⟩

theorem always_updateById_fits (now : Instant) (id record timeout : Value) :
    (w.updateById now id record timeout).Always (Fits w (.updateById now id record)) fun _ => True := by
  refine Writer.always_updateById ?_ ?_ ?_ ?_
  · exact fun q p _ hp => fits_rows (Writer.aligned_probing hd (Selection.aligned_predicate hd hraw hp))
  · exact fun row current check _ => fits_probe hd rfl check.2 id Predicate.aligned_none
  · exact fun q row p _ hp hrow => fits_write (Writer.aligned_updating hd (Selection.aligned_predicate hd hraw hp))
      ⟨row, hrow, Writer.updates_updating hd⟩
  · exact always_find_fits (s := w.reader) hd (fun _ h => nomatch h) id

theorem always_fits (op : Operation) (timeout : Value) :
    (op.program w timeout).Always (op.Fits w) fun _ => True := by
  have hload (limit : Value) (link : Link) (target : Table) (keys : List Value) (_ : w.selection.table.Reaches link target) :
      op.Fits w ⟨.rows, Preload.statement w.selection.dialect link target keys, limit⟩ := fits_preload hd link target keys
  cases op <;> refine always_void.mpr ?_
  case get => exact Selection.always_get (fun _ h => fits_rows_of_reads hd hraw h) (hload _)
  case page =>
    exact Selection.always_page (fun _ h => fits_count_of_reads hd hraw h)
      (fun _ h => fits_rows_of_reads hd hraw h) (hload _)
  case first => exact Selection.always_first (fun _ h => fits_rows_of_reads hd hraw h) (hload _)
  case find id => exact always_find_fits hd hraw id
  case count => exact Selection.always_count fun _ h => fits_count_of_reads hd hraw h
  case sum field => exact Selection.always_sum fun _ _ h => fits_aggregate_of_reads hd hraw (by decide) h
  case average field => exact Selection.always_average fun _ _ h => fits_aggregate_of_reads hd hraw (by decide) h
  case exist => exact Selection.always_exist fun _ h => fits_count_of_reads hd hraw h
  case existsById id => exact Selection.always_existsById fun _ _ _ h => fits_count_of_reads hd hraw h
  case create now record => exact always_create_fits hd now record timeout
  case update now record => exact always_update_fits hd hraw now record timeout
  case updateById now id record => exact always_updateById_fits hd hraw now id record timeout
  case delete now =>
    exact Selection.always_delete fun p _ _ hp => fits_write
      (Selection.aligned_deletion hd (Selection.aligned_predicate hd hraw hp)) (Selection.deletion_mayWrite hd)
  case deleteById now id extra =>
    exact Selection.always_deleteById (fun _ _ _ h => fits_count_of_reads hd hraw h) fun q p _ hp => fits_write
      (Selection.aligned_deletion hd (Selection.aligned_predicate hd hraw hp)) (Selection.deletion_mayWrite hd)

end

/-- Whatever is stored and answered, every statement of every operation has as many placeholders as
    parameters, so that rendering never finds a parameter missing or left over; and in what an operation writes,
    each value is bound to the placeholder of its own column. Of the conditions in statement text it is asked
    that each of them closes its quotes and comes with one argument for each of its placeholders. -/
theorem statements_balanced {w : Writer} (hd : w.selection.dialect ≠ .generic)
    (hraw : ∀ r ∈ w.selection.raw, ∃ sql args, r = Predicate.raw sql args ∧ Marked sql args.length)
    (op : Operation) (timeout : Value) :
    (op.program w timeout).Always (fun r =>
      placeholderCount r.statement.sql = r.statement.params.length ∧
      FailsOnly NoMismatch (w.selection.dialect.render r.statement.sql r.statement.params) ∧
      ∀ returning, r.kind = .write returning → op.MayWrite w r.statement) fun _ => True := by
  have haligned : ∀ r ∈ w.selection.raw, r.Aligned := by
    intro r hr
    obtain ⟨sql, args, rfl, hmarked⟩ := hraw r hr
    exact Predicate.aligned_raw hmarked
  exact (always_fits hd haligned op timeout).mono
    (fun r hr => ⟨hr.1.eq_placeholderCount, Dialect.failsOnly_render hr.1, hr.2⟩) fun _ h => h

/-- An update by a condition with a mark inside a quote, of a column whose name holds a quote and a mark. -/
theorem statements_balanced_users :
    let users : Table := ⟨"users", "id", false, none, none, none, []⟩
    let s := (Selection.all .mysql users .standard).restrict "note = '?' OR note = ?" [.int 1]
    let op := update ⟨⟨2024, 1, 1⟩, ⟨0, 0, 0, 0, none⟩⟩ (.dict [("na\x60me?", .int 2)])
    (s.dialect ≠ .generic ∧
      ∀ r ∈ s.raw, ∃ sql args, r = Predicate.raw sql args ∧ Marked sql args.length) ∧
    (op.program (.ofSelection s) .null).Always (fun r =>
      placeholderCount r.statement.sql = r.statement.params.length ∧
      FailsOnly NoMismatch (s.dialect.render r.statement.sql r.statement.params) ∧
      ∀ returning, r.kind = .write returning → op.MayWrite (.ofSelection s) r.statement) fun _ => True := by
  intro users s op
  have hd : s.dialect ≠ .generic := by decide
  have hraw : ∀ r ∈ s.raw, ∃ sql args, r = Predicate.raw sql args ∧ Marked sql args.length := by
    intro r hr
    exact ⟨"note = '?' OR note = ?", [.int 1], List.mem_singleton.mp hr, by decide⟩
  exact ⟨⟨hd, hraw⟩, statements_balanced (w := .ofSelection s) hd hraw op .null⟩

end Operation
end TableQuery
