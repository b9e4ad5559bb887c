import TableQuery.Proofs.CheckedChanges
import TableQuery.Proofs.HidingStatements
import TableQuery.Proofs.KeyedOperations

/-! Stamped rows stay hidden. A selection that leaves them out does so in every statement of every operation: readings,
    counts, probes of rules and changes carry the test for the stamp, and no row is ever removed. Only a row that was
    just created is read back without the test. -/

namespace TableQuery
open Program

/-- A selection leaves out the rows that are stamped in a column, and its conditions in statement text can be read: they
    close their quotes, nest their parentheses and have no comments. -/
structure Selection.Scoped (s : Selection) (column : String) : Prop where
  stamped : s.table.softDelete = some column
  hides : s.hidesDeleted = true
  readable : ∀ r ∈ s.raw, ∃ text args, r = Predicate.raw text args ∧ Readable s.dialect text

/-- What an operation asks so that no row is seen that is stamped in a column of its table: statements that leave such
    rows out; the loading of a relation, which leaves out the rows that are stamped in their own table; and, for a
    creation, the insertion and the reading of what was inserted by its key. -/
inductive Operation.HidesDeleted (w : Writer) (column : String) (past : List Exchange) : Operation → Request → Prop
  | restricted {op : Operation} {r : Request} : r.statement.HidesDeleted w.selection.dialect column →
    HidesDeleted w column past op r
  | related {op : Operation} {link : Link} {target : Table} (keys : List Value) (timeout : Value) :
    w.selection.table.Reaches link target → (∀ c, target.softDelete = some c →
      (Preload.statement w.selection.dialect link target keys).HidesDeleted w.selection.dialect c) →
    HidesDeleted w column past op ⟨.rows, Preload.statement w.selection.dialect link target keys, timeout⟩
  | inserted {now : Instant} {record : Value} {r : Request} : r.IsInsertion w →
    HidesDeleted w column past (.create now record) r
  | readBack {now : Instant} {record timeout limit : Value} {row : Row} {result : WriteResult} {q : Query}
    {statement : Select} : .answered ⟨.write false, w.insertion row, timeout⟩ result ∈ past →
    w.reader.unscoped.queryById ((row.get? w.selection.table.primaryKey).getD result.lastRowId) = .ok q →
    w.reader.unscoped.Reads q statement →
    HidesDeleted w column past (.create now record) ⟨.rows, statement.rows w.selection.dialect, limit⟩

/-! ### Selections -/

namespace Selection.Scoped
variable {s : Selection} {w : Writer} {column : String} {q : Query} {p : Predicate}

theorem hidesDeleted (h : s.Scoped column) (hp : s.predicate q = .ok p) : p.HidesDeleted s.dialect column := by
  obtain ⟨groups, columns, hgroups, -, rfl⟩ := predicate_eq_ok hp
  have hscope : s.scope = ⟨s.dialect.unstamped column, []⟩ := by
    unfold scope
    rw [if_pos h.hides, Table.notDeleted_eq h.stamped]
  rw [hscope]
  refine Predicate.hidesDeleted_all (by simp) fun hd part hpart => ?_
  simp only [List.mem_append, List.mem_singleton] at hpart
  rcases hpart with hpart | hpart | hpart | rfl
  · obtain ⟨g, -, hg⟩ := forall₂_mem_right hgroups part hpart
    exact Compiler.legible_group hd hg
  · obtain ⟨name, -, rfl⟩ := List.mem_map.mp hpart
    exact legible_holdsSomething hd name
  · obtain ⟨text, args, rfl, hreadable⟩ := h.readable part hpart
    exact Predicate.legible_raw hreadable
  · exact legible_operator hd column .isNull []

/-- What was written is read back without stamped rows. -/
theorem reader (h : w.selection.Scoped column) : w.reader.Scoped column := ⟨h.stamped, rfl, fun _ hr => nomatch hr⟩

/-- Rows are not removed, but stamped. -/
theorem deletion_eq (h : s.Scoped column) (now : Instant) :
    s.deletion now p = (Writer.ofSelection s).updating [(column, .instant now)] p := by
  unfold deletion
  rw [h.stamped]
  simp [h.hides, Writer.updating, Writer.ofSelection, String.append_assoc]

end Selection.Scoped

/-! ### Operations -/

namespace Operation
variable {w : Writer} {op : Operation} {column : String} {past : List Exchange} {s : Selection} {q : Query}
  {p : Predicate} {id timeout : Value}

theorem HidesDeleted.append {r : Request} (more : List Exchange) (h : op.HidesDeleted w column past r) :
    op.HidesDeleted w column (past ++ more) r := by
  cases h with
  | restricted h => exact .restricted h
  | related keys timeout hreach h => exact .related keys timeout hreach h
  | inserted h => exact .inserted h
  | readBack hmem hq hreads => exact .readBack (List.mem_append_left more hmem) hq hreads

theorem hidesDeleted_preload (link : Link) (target : Table) (keys : List Value)
    (hreach : w.selection.table.Reaches link target) :
    op.HidesDeleted w column past ⟨.rows, Preload.statement w.selection.dialect link target keys, timeout⟩ :=
  .related keys timeout hreach fun _ hstamped => Preload.hidesDeleted_statement hstamped link keys

/-- A statement with the predicate of a selection that leaves stamped rows out. -/
theorem hidesDeleted_frames {r : Request} (hd : s.dialect = w.selection.dialect) (h : s.Scoped column)
    (hp : s.predicate q = .ok p) (hframes : r.statement.Frames s.dialect p) : op.HidesDeleted w column past r :=
  .restricted (hd ▸ hframes.hidesDeleted (h.hidesDeleted hp))

theorem always_find_hidesDeleted (hd : s.dialect = w.selection.dialect) (ht : s.table = w.selection.table)
    (h : s.Scoped column) (id timeout : Value) : (s.find id timeout).Always (op.HidesDeleted w column past) fun _ => True := by
  refine Selection.always_find (fun _ statement _ hreads => ?_) fun link target keys hreach => ?_
  · exact hidesDeleted_frames hd h hreads.restriction statement.frames_rows
  · rw [hd]
    rw [ht] at hreach
    exact hidesDeleted_preload link target keys hreach

section
variable (h : w.selection.Scoped column)
include h

theorem hidesDeleted_probe (rules : List UniqueRule) (pairs : List (String × Value)) (excludedId : Value)
    {excluded : Predicate} (hexcluded : w.selection.dialect ≠ .generic → excluded.Legible w.selection.dialect) :
    op.HidesDeleted w column past ⟨.value, { w.uniqueness with rules }.probe pairs excludedId excluded, timeout⟩ :=
  .restricted (Uniqueness.hidesDeleted_probe (u := { w.uniqueness with rules }) h.stamped hexcluded pairs excludedId)

theorem along_create_hidesDeleted (now : Instant) (record timeout : Value) :
    (w.create now record timeout).Along (HidesDeleted w column · (.create now record)) (fun _ _ => True) past := by
  refine Writer.along_create (fun _ more _ hr => hr.append more) ?_ ?_ ?_ ?_
  · exact fun _ _ check _ => hidesDeleted_probe h w.rules check.2 .null fun _ => Predicate.legible_none
  · exact fun _ row => .inserted ⟨true, row, " RETURNING *", rfl, rfl⟩
  · exact fun _ row => .inserted ⟨false, row, "", rfl, by simp⟩
  · exact fun past row result hmem =>
      Selection.always_find (fun _ _ hq hreads => .readBack hmem hq hreads) hidesDeleted_preload

theorem always_update_hidesDeleted (now : Instant) (record timeout : Value) :
    (w.update now record timeout).Always (op.HidesDeleted w column past) fun _ => True := by
  refine Writer.always_update (fun row p hp check _ => ?_) (fun p hp => ?_) fun row p _ _ hp _ _ => ?_
  · exact hidesDeleted_probe h w.rules check.2 .null (h.hidesDeleted hp).legible
  · exact hidesDeleted_frames rfl h hp Writer.frames_counting
  · exact hidesDeleted_frames rfl h hp (Writer.frames_updating row)

theorem always_updateById_hidesDeleted (now : Instant) (id record timeout : Value) :
    (w.updateById now id record timeout).Always (op.HidesDeleted w column past) fun _ => True := by
  refine Writer.always_updateById (fun q p _ hp => ?_) (fun row current check _ => ?_) (fun q row p _ hp _ => ?_) ?_
  · exact hidesDeleted_frames rfl h hp Writer.frames_probing
  · exact hidesDeleted_probe h _ check.2 id fun _ => Predicate.legible_none
  · exact hidesDeleted_frames rfl h hp (Writer.frames_updating row)
  · exact always_find_hidesDeleted (s := w.reader) rfl rfl h.reader id _

end

theorem along_hidesDeleted (h : w.selection.Scoped column) (op : Operation) (timeout : Value) :
    (op.program w timeout).Along (op.HidesDeleted w column) (fun _ _ => True) [] := by
  have hread {p : Program Unit} (hp : p.Always (op.HidesDeleted w column []) fun _ => True) :
      p.Along (op.HidesDeleted w column) (fun _ _ => True) [] := hp.along_of_append fun more _ hr => hr.append more
  have hrows (limit : Value) {q : Query} (statement : Select) (hreads : w.selection.Reads q statement) :
      op.HidesDeleted w column [] ⟨.rows, statement.rows w.selection.dialect, limit⟩ :=
    hidesDeleted_frames rfl h hreads.restriction statement.frames_rows
  have hcount (limit : Value) {q : Query} (statement : Select) (hreads : w.selection.Reads q statement) :
      op.HidesDeleted w column [] ⟨.value, statement.count w.selection.dialect, limit⟩ :=
    hidesDeleted_frames rfl h hreads.restriction statement.frames_count
  have haggregate (limit : Value) {function : String} (hfunction : Silent w.selection.dialect function)
      (statement : Select) (name : String) (hreads : w.selection.Reads w.selection.query statement) :
      op.HidesDeleted w column [] ⟨.value, statement.aggregate w.selection.dialect function name, limit⟩ :=
    hidesDeleted_frames rfl h hreads.restriction (statement.frames_aggregate hfunction name)
  cases op with
  | get => exact hread (always_void.mpr (Selection.always_get (hrows _) hidesDeleted_preload))
  | page => exact hread (always_void.mpr (Selection.always_page (hcount _) (hrows _) hidesDeleted_preload))
  | first => exact hread (always_void.mpr (Selection.always_first (hrows _) hidesDeleted_preload))
  | find id => exact hread (always_void.mpr (always_find_hidesDeleted rfl rfl h id timeout))
  | count => exact hread (always_void.mpr (Selection.always_count (hcount _)))
  | sum field =>
    exact hread (always_void.mpr (Selection.always_sum (haggregate _ (silent_words (by decide) _))))
  | average field =>
    exact hread (always_void.mpr (Selection.always_average (haggregate _ (silent_words (by decide) _))))
  | exist => exact hread (always_void.mpr (Selection.always_exist (hcount _)))
  | existsById id =>
    exact hread (always_void.mpr (Selection.always_existsById fun _ statement _ hreads => hcount _ statement hreads))
  | create now record =>
    exact along_bind.mpr ((along_create_hidesDeleted h now record timeout).mono fun _ _ _ => trivial)
  | update now record => exact hread (always_void.mpr (always_update_hidesDeleted h now record timeout))
  | updateById now id record => exact hread (always_void.mpr (always_updateById_hidesDeleted h now id record timeout))
  | delete now =>
    refine hread (always_void.mpr (Selection.always_delete fun p _ _ hp => ?_))
    exact hidesDeleted_frames rfl h hp (w.selection.frames_deletion now)
  | deleteById now id extra =>
    refine hread (always_void.mpr (Selection.always_deleteById (fun _ statement _ => hcount _ statement) fun q p _ hp => ?_))
    exact hidesDeleted_frames rfl h hp (w.selection.frames_deletion now)

/-- Where rows are stamped, an operation is never ready to remove any. -/
theorem Ready.not_begins_delete {st : Statement} (h : w.selection.Scoped column) (hready : op.Ready w timeout past st) :
    ¬ Begins "DELETE" st.sql := by
  cases hready with
  | create _ _ _ _ hst =>
    rcases hst with rfl | rfl
    · exact (Writer.begins_insertion _).not_begins rfl rfl (by decide)
    · exact ((Writer.begins_insertion _).append _).not_begins rfl rfl (by decide)
  | update => exact (Writer.begins_updating _).not_begins rfl rfl (by decide)
  | updateById => exact (Writer.begins_updating _).not_begins rfl rfl (by decide)
  | delete =>
    rw [h.deletion_eq]
    exact (Writer.begins_updating _).not_begins rfl rfl (by decide)
  | deleteById =>
    rw [h.deletion_eq]
    exact (Writer.begins_updating _).not_begins rfl rfl (by decide)

/-- Rows that are stamped in a column stay hidden from every operation of a selection that leaves them out. Each statement
    on its table has the test for the stamp among the conditions that all have to hold, except the insertion of a row and
    the reading of the row that was inserted; relations leave out what is stamped in their own tables; and no row is
    removed. -/
theorem deleted_rows_hidden (h : w.selection.Scoped column) (op : Operation) (timeout : Value) :
    (op.program w timeout).Along (fun past r => op.HidesDeleted w column past r ∧ ¬ Begins "DELETE" r.statement.sql)
      (fun _ _ => True) [] := by
  have hkept : (op.program w timeout).Along (fun _ r => ¬ Begins "DELETE" r.statement.sql) (fun _ _ => True) [] := by
    refine (course_program w op timeout).along.mono_asked fun past r hr => ?_
    rcases hr with hreads | ⟨-, hready⟩
    · exact hreads.select.not_begins rfl rfl (by decide)
    · exact hready.not_begins_delete h
  exact ((along_hidesDeleted h op timeout).and hkept).mono fun _ _ _ => trivial

/-- A deletion of all rows that an alternative in statement text lets through. -/
theorem deleted_rows_hidden_posts :
    let posts : Table := ⟨"posts", "id", false, none, none, some "deleted_at", []⟩
    let w : Writer := .ofSelection ((Selection.all .sqlite posts .standard).restrict "author = ? OR (draft)" [.int 7])
    let op := delete ⟨⟨2024, 1, 1⟩, ⟨0, 0, 0, 0, none⟩⟩
    w.selection.Scoped "deleted_at" ∧
      (op.program w .null).Along (fun past r => op.HidesDeleted w "deleted_at" past r ∧ ¬ Begins "DELETE" r.statement.sql)
        (fun _ _ => True) [] := by
  intro posts w op
  have hscoped : w.selection.Scoped "deleted_at" := by
    refine ⟨rfl, rfl, fun r hr => ⟨"author = ? OR (draft)", [.int 7], List.mem_singleton.mp hr, ?_⟩⟩
    decide +kernel
  exact ⟨hscoped, deleted_rows_hidden hscoped op .null⟩

end Operation
end TableQuery
