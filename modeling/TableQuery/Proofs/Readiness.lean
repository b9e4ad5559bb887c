import TableQuery.Proofs.Assignments
import TableQuery.Proofs.Histories
import TableQuery.Proofs.Outcomes

/-! Readiness: what an operation has to have asked, and been answered, when it comes to the statement by which it
    changes rows. -/

namespace TableQuery
open Program

/-- Text begins with a given piece. -/
def Begins (piece s : String) : Prop := ∃ rest, s = piece ++ rest

def Statement.IsSelect (st : Statement) : Prop := Begins "SELECT " st.sql

def Statement.IsChange (st : Statement) : Prop :=
  Begins "INSERT INTO " st.sql ∨ Begins "UPDATE " st.sql ∨ Begins "DELETE FROM " st.sql

/-- A request for rows or for a value, by a statement that only reads. -/
structure Request.Reads (r : Request) : Prop where
  select : r.statement.IsSelect
  kind : ∀ returning, r.kind ≠ .write returning

/-- So far nothing was changed. -/
def OnlySelects (past : List Exchange) : Prop := ∀ r answer, .answered r answer ∈ past → r.statement.IsSelect

/-- The probes of some rules, in order, none of which found a row. -/
def Uniqueness.Passes (u : Uniqueness) (excludedId : Value) (excluded : Predicate) (timeout : Value) :
    List (UniqueRule × List (String × Value)) → List Exchange → Prop :=
  List.Forall₂ fun check e => ∃ (v : Value) (n : Int),
    e = .answered ⟨.value, u.probe check.2 excludedId excluded, timeout⟩ v ∧ v.toCount = .ok n ∧ n ≤ 0

/-- The checks of an update of the rows of a predicate: if rules apply, no row outside holds the values, and no more
    than one row is to receive them. -/
inductive Writer.Targets (w : Writer) (row : Row) (p : Predicate) (timeout : Value) : List Exchange → Prop
  | unruled : w.uniqueness.enforced (.dict row) = [] → Targets w row p timeout []
  | ruled {probes : List Exchange} {v : Value} {n : Int} : w.uniqueness.enforced (.dict row) ≠ [] →
    w.uniqueness.Passes .null p timeout (w.uniqueness.enforced (.dict row)) probes → v.toCount = .ok n → n ≤ 1 →
    Targets w row p timeout (probes ++ [.answered ⟨.value, w.counting p, timeout⟩ v])

/-- What an operation has gone through when it comes to the statement by which it changes rows. -/
inductive Operation.Ready (w : Writer) (timeout : Value) : Operation → List Exchange → Statement → Prop
  | create {now : Instant} {record : Value} {row : Row} {before probes : List Exchange} {st : Statement} :
    (w.insertedRow now record).CanEnd row → row.isEmpty = false → OnlySelects before →
    w.uniqueness.Passes .null .none timeout (w.uniqueness.enforced (.dict row)) probes →
    st = w.insertion row ∨ st = { w.insertion row with sql := (w.insertion row).sql ++ " RETURNING *" } →
    Ready w timeout (.create now record) (before ++ probes) st
  | update {now : Instant} {record : Value} {row : Row} {p : Predicate} {past : List Exchange} :
    w.selection.predicate w.selection.query = .ok p → w.updatedColumns now record = .ok row →
    row.isEmpty = false → w.Targets row p timeout past → Ready w timeout (.update now record) past (w.updating row p)
  | updateById {now : Instant} {id record : Value} {q : Query} {p : Predicate} {rows : List Row} {current row : Row}
    {probes : List Exchange} :
    w.selection.queryById id = .ok q → w.selection.predicate q = .ok p → rows.head? = some current →
    w.updatedColumns now record = .ok row → row.isEmpty = false →
    (w.uniqueness.touchedBy (.dict row)).Passes id .none timeout
      ((w.uniqueness.touchedBy (.dict row)).enforced (.dict (Writer.overlay current row))) probes →
    Ready w timeout (.updateById now id record) (.answered ⟨.rows, w.probing p, timeout⟩ rows :: probes)
      (w.updating row p)
  | delete {now : Instant} {p : Predicate} : w.selection.predicate w.selection.query = .ok p →
    Ready w timeout (.delete now) [] (w.selection.deletion now p)
  | deleteById {now : Instant} {id : Value} {extra : Option Query} {q : Query} {p : Predicate} {v : Value} {n : Int} :
    w.selection.deletionQuery id extra = .ok q → w.selection.predicate q = .ok p → v.toCount = .ok n → 0 < n →
    Ready w timeout (.deleteById now id extra) [.answered ⟨.value, w.counting p, timeout⟩ v]
      (w.selection.deletion now p)

/-! ### Statements that read -/

section
variable {d : Dialect} {w : Writer} {p : Predicate} {st : Statement} {timeout : Value}

theorem Begins.append {piece s : String} (h : Begins piece s) (t : String) : Begins piece (s ++ t) := by
  obtain ⟨rest, rfl⟩ := h
  exact ⟨rest ++ t, String.append_assoc⟩

/-- Texts with different first letters begin differently. -/
theorem Begins.not_begins {piece piece' s : String} {c c' : Char} (h : Begins piece s) (hc : piece.toList.head? = some c)
    (hc' : piece'.toList.head? = some c') (hne : c ≠ c') : ¬ Begins piece' s := by
  rintro ⟨rest', h'⟩
  obtain ⟨rest, h⟩ := h
  have hhead := congrArg (fun s : String => s.toList.head?) (h.symm.trans h')
  simp only [String.toList_append, List.head?_append, hc, hc', Option.some_or, Option.some.injEq] at hhead
  exact hne hhead

theorem Statement.IsChange.not_isSelect (h : st.IsChange) : ¬ st.IsSelect := by
  rcases h with h | h | h
  · exact h.not_begins rfl rfl (by decide)
  · exact h.not_begins rfl rfl (by decide)
  · exact h.not_begins rfl rfl (by decide)

namespace Request

theorem reads_rows (s : Select) : (⟨.rows, s.rows d, timeout⟩ : Request).Reads := by
  have hselect : Begins "SELECT " ("SELECT " ++ s.projection d) := ⟨_, rfl⟩
  exact ⟨(((hselect.append " ").append _).append _).append _, fun _ h => nomatch h⟩

theorem reads_count (s : Select) : (⟨.value, s.count d, timeout⟩ : Request).Reads := by
  have hselect : Begins "SELECT " "SELECT COUNT(*) " := ⟨"COUNT(*) ", rfl⟩
  exact ⟨hselect.append _, fun _ h => nomatch h⟩

theorem reads_aggregate (s : Select) (function column : String) :
    (⟨.value, s.aggregate d function column, timeout⟩ : Request).Reads := by
  have hselect : Begins "SELECT " "SELECT COALESCE(" := ⟨"COALESCE(", rfl⟩
  exact ⟨((((hselect.append function).append "(").append _).append "), 0) ").append _, fun _ h => nomatch h⟩

theorem reads_preload (link : Link) (target : Table) (keys : List Value) :
    (⟨.rows, Preload.statement d link target keys, timeout⟩ : Request).Reads := by
  have hselect : Begins "SELECT " "SELECT * FROM " := ⟨"* FROM ", rfl⟩
  exact ⟨(hselect.append _).append _, fun _ h => nomatch h⟩

theorem begins_count : Begins "SELECT " "SELECT COUNT(*) FROM " := ⟨"COUNT(*) FROM ", rfl⟩

theorem reads_probe (u : Uniqueness) (pairs : List (String × Value)) (id : Value) (excluded : Predicate) :
    (⟨.value, u.probe pairs id excluded, timeout⟩ : Request).Reads :=
  ⟨((begins_count.append _).append " WHERE ").append _, fun _ h => nomatch h⟩

theorem reads_counting (w : Writer) (p : Predicate) (timeout : Value) :
    (⟨.value, w.counting p, timeout⟩ : Request).Reads :=
  ⟨(begins_count.append _).append _, fun _ h => nomatch h⟩

theorem reads_probing (w : Writer) (p : Predicate) (timeout : Value) :
    (⟨.rows, w.probing p, timeout⟩ : Request).Reads := by
  have hselect : Begins "SELECT " "SELECT * FROM " := ⟨"* FROM ", rfl⟩
  exact ⟨((hselect.append _).append _).append " LIMIT 1", fun _ h => nomatch h⟩

end Request

/-! ### The past -/

theorem onlySelects_nil : OnlySelects [] := fun _ _ h => nomatch h

theorem OnlySelects.append {past more : List Exchange} (h : OnlySelects past) (h' : OnlySelects more) :
    OnlySelects (past ++ more) := fun r answer hmem =>
  (List.mem_append.mp hmem).elim (h r answer) (h' r answer)

theorem onlySelects_answered {r : Request} {answer : r.kind.Answer} (h : r.statement.IsSelect) :
    OnlySelects [.answered r answer] := by
  intro r' answer' hmem
  cases List.mem_singleton.mp hmem
  exact h

theorem OnlySelects.answered {past : List Exchange} {r : Request} (h : OnlySelects past) (hr : r.Reads)
    (answer : r.kind.Answer) : OnlySelects (past ++ [.answered r answer]) := h.append (onlySelects_answered hr.select)

theorem OnlySelects.drawn {past : List Exchange} (h : OnlySelects past) (key : Value) :
    OnlySelects (past ++ [.drawn key]) :=
  h.append fun _ _ hmem => nomatch List.mem_singleton.mp hmem

theorem Uniqueness.Passes.onlySelects {u : Uniqueness} {id : Value}
    {checks : List (UniqueRule × List (String × Value))} {probes : List Exchange}
    (h : u.Passes id p timeout checks probes) : OnlySelects probes := by
  intro r answer hmem
  obtain ⟨check, -, v, n, he, -⟩ := forall₂_mem_right h _ hmem
  cases he
  exact (Request.reads_probe u check.2 id p).select

theorem Writer.Targets.onlySelects {row : Row} {past : List Exchange} (h : w.Targets row p timeout past) :
    OnlySelects past := by
  cases h with
  | unruled _ => exact onlySelects_nil
  | ruled _ hpasses => exact hpasses.onlySelects.answered (Request.reads_counting w p timeout) _

theorem Writer.begins_updating (row : Row) : Begins "UPDATE " (w.updating row p).sql := by
  have hupdate : Begins "UPDATE " ("UPDATE " ++ w.selection.dialect.quote w.selection.table.name) := ⟨_, rfl⟩
  exact ((hupdate.append " SET ").append _).append _

theorem Writer.isChange_updating (row : Row) : (w.updating row p).IsChange := .inr (.inl (begins_updating row))

theorem Selection.isChange_deletion (s : Selection) (now : Instant) : (s.deletion now p).IsChange := by
  rcases s.deletion_cases now p with ⟨column, -, -, h⟩ | h
  · rw [h]
    exact Writer.isChange_updating _
  · rw [h]
    have hdelete : Begins "DELETE FROM " ("DELETE FROM " ++ s.dialect.quote s.table.name) := ⟨_, rfl⟩
    exact .inr (.inr (hdelete.append _))

theorem Writer.begins_insertion (row : Row) : Begins "INSERT INTO " (w.insertion row).sql := by
  have hinsert : Begins "INSERT INTO " ("INSERT INTO " ++ w.selection.dialect.quote w.selection.table.name) :=
    ⟨_, rfl⟩
  exact ((((hinsert.append " (").append _).append ") VALUES (").append _).append ")"

/-- An operation is only ready for a statement that changes rows, and has only asked statements that read. -/
theorem Operation.Ready.isChange {op : Operation} {past : List Exchange} (h : op.Ready w timeout past st) :
    st.IsChange ∧ OnlySelects past := by
  cases h with
  | create _ _ hbefore hpasses hst =>
    refine ⟨.inl ?_, hbefore.append hpasses.onlySelects⟩
    rcases hst with rfl | rfl
    · exact Writer.begins_insertion _
    · exact (Writer.begins_insertion _).append _
  | update _ _ _ htargets => exact ⟨Writer.isChange_updating _, htargets.onlySelects⟩
  | updateById _ _ _ _ _ hpasses =>
    refine ⟨Writer.isChange_updating _, OnlySelects.append (onlySelects_answered ?_) hpasses.onlySelects⟩
    exact (Request.reads_probing w _ timeout).select
  | delete _ => exact ⟨w.selection.isChange_deletion _, onlySelects_nil⟩
  | deleteById =>
    refine ⟨w.selection.isChange_deletion _, onlySelects_answered ?_⟩
    exact (Request.reads_counting w _ timeout).select

end

end TableQuery
