import TableQuery.Proofs.CheckedChanges
import TableQuery.Proofs.HidingStatements
import TableQuery.Proofs.KeyedOperations

/-! Reading back what was updated by key. The row is looked for, and changed, among the rows that the selection lets
    through; it is read back among those that are not stamped. Where stamped rows are not left out, the two differ: a
    stamped row is changed, and then there is no such row. -/

namespace TableQuery
open Program

/-- The predicate of the row of a key among the rows of a selection. -/
def Selection.KeyedBy (s : Selection) (id : Value) (p : Predicate) : Prop :=
  ∃ q, s.queryById id = .ok q ∧ s.predicate q = .ok p

/-- The last of the conditions that a predicate puts together is the test for the stamp. -/
def Predicate.TestsStamp (d : Dialect) (column : String) (p : Predicate) : Prop :=
  ∃ parts, p = Predicate.all (parts ++ [⟨d.unstamped column, []⟩])

namespace Writer

/-- What an update by key asks: the row of the key, probes of rules, the change of the row, and the row again. -/
inductive UpdateAsks (w : Writer) (id : Value) : Request → Prop
  | probe {p : Predicate} (limit : Value) (hp : w.selection.KeyedBy id p) : UpdateAsks w id ⟨.rows, w.probing p, limit⟩
  | rule {r : Request} (h : r.IsProbe w) : UpdateAsks w id r
  | change {p : Predicate} (row : Row) (limit : Value) (hp : w.selection.KeyedBy id p) :
    UpdateAsks w id ⟨.write false, w.updating row p, limit⟩
  | readBack {statement : Select} (limit : Value) (htable : statement.table = w.selection.table.name)
    (hp : w.reader.KeyedBy id statement.restriction) :
    UpdateAsks w id ⟨.rows, statement.rows w.selection.dialect, limit⟩

/-- A row was changed, and last of all it was asked for again, with an answer. -/
def ReadBack (w : Writer) (id : Value) (past : List Exchange) (rows : List Row) : Prop :=
  ∃ before p row result statement limit, w.selection.KeyedBy id p ∧
    past = before ++
      [.answered ⟨.write false, w.updating row p, limit⟩ result, .answered ⟨.rows, statement, limit⟩ rows]

/-- If a row that was changed is not found again, the failure is that there is no such row. -/
def LosesChanged (w : Writer) (id : Value) (past : List Exchange) (f : Failure) : Prop :=
  w.ReadBack id past [] → f = w.reader.noMatch

end Writer

/-! ### The last condition -/

section
variable {sep : String} {ss : List String}

/-- A text of pieces that is not empty ends as the last of them does. -/
theorem getLast?_joinWith (h : ∀ s ∈ ss, s ≠ "") :
    (joinWith sep ss).toList.getLast? = ss.getLast?.bind fun s => s.toList.getLast? := by
  induction ss with
  | nil => rfl
  | cons s ss ih =>
    cases ss with
    | nil => rfl
    | cons t ss =>
      obtain ⟨-, hrest⟩ := List.forall_mem_cons.mp h
      have hne : joinWith sep (t :: ss) ≠ "" := fun hempty =>
        List.cons_ne_nil t ss ((joinWith_eq_empty_iff hrest).mp hempty)
      have hsome : (joinWith sep (t :: ss)).toList ≠ [] := fun hnil => hne (String.toList_eq_nil_iff.mp hnil)
      rw [joinWith_cons_cons, String.toList_append, List.getLast?_append_of_ne_nil _ hsome, ih hrest,
        List.getLast?_cons_cons]

end

namespace Predicate
variable {d : Dialect} {column : String} {p : Predicate} {ps : List Predicate}

theorem getLast?_unstamped (d : Dialect) (column : String) : (d.unstamped column).toList.getLast? = some 'L' := by
  have hend : " IS NULL".toList = " IS NUL".toList ++ ['L'] := by decide
  rw [Dialect.unstamped, String.toList_append, hend, ← List.append_assoc, List.getLast?_concat]

theorem getLast?_all (ps : List Predicate) :
    (all ps).sql.toList.getLast? = (kept ps).getLast?.bind fun p => p.sql.toList.getLast? := by
  have hsome : ∀ s ∈ (kept ps).map sql, s ≠ "" := by
    intro s hs
    obtain ⟨p, hp, rfl⟩ := List.mem_map.mp hs
    exact (mem_kept.mp hp).2
  rw [all, sql_join, getLast?_joinWith hsome, List.getLast?_map]
  cases (kept ps).getLast? <;> rfl

theorem TestsStamp.getLast? (h : p.TestsStamp d column) : p.sql.toList.getLast? = some 'L' := by
  obtain ⟨parts, rfl⟩ := h
  have hne : (⟨d.unstamped column, []⟩ : Predicate).sql ≠ "" := by simp [Dialect.unstamped]
  rw [getLast?_all, kept_append, kept_cons_some hne, List.getLast?_append_of_ne_nil _ (List.cons_ne_nil _ _)]
  exact getLast?_unstamped d column

/-- What does not end with the test: conditions in parentheses, and tests that something is there. -/
theorem not_testsStamp_all (h : ∀ part ∈ ps, part.sql.toList.getLast? ≠ some 'L') : ¬ (all ps).TestsStamp d column := by
  intro htests
  have hlast := htests.getLast?
  rw [getLast?_all] at hlast
  obtain ⟨part, hpart, hend⟩ := Option.bind_eq_some_iff.mp hlast
  exact h part (mem_kept.mp (List.mem_of_getLast? hpart)).1 hend

theorem getLast?_grouped (p : Predicate) : p.grouped.sql.toList.getLast? ≠ some 'L' := by
  by_cases hp : p.sql = ""
  · rw [grouped_none hp, hp]
    decide
  · have hclose : ")".toList = [')'] := by decide
    rw [grouped_some hp, String.toList_append, hclose, List.getLast?_concat]
    decide

theorem getLast?_holdsSomething (d : Dialect) (name : String) :
    (d.holdsSomething name).sql.toList.getLast? ≠ some 'L' := by
  have hempty : " != ''".toList = " != '".toList ++ ['\''] := by decide
  have hcast : " AS TEXT) != ''".toList = " AS TEXT) != '".toList ++ ['\''] := by decide
  cases d <;>
    simp only [Dialect.holdsSomething, Dialect.notBlank, String.toList_append, hempty, hcast, ← List.append_assoc,
      List.getLast?_concat] <;> decide

end Predicate

namespace Selection
variable {s : Selection} {column : String} {id : Value} {p : Predicate}

/-- The predicate of the row of a key ends with the test for the stamp if and only if stamped rows are left out. -/
theorem KeyedBy.testsStamp_iff (h : s.KeyedBy id p) (hcolumn : s.table.softDelete = some column)
    (hraw : ∀ r ∈ s.raw, ∃ text args, r = Predicate.raw text args) :
    p.TestsStamp s.dialect column ↔ s.hidesDeleted = true := by
  obtain ⟨q, -, hp⟩ := h
  obtain ⟨groups, columns, hgroups, -, rfl⟩ := predicate_eq_ok hp
  cases hscoped : s.hidesDeleted with
  | true =>
    refine iff_of_true ⟨groups ++ (columns.map s.dialect.holdsSomething ++ s.raw), ?_⟩ rfl
    rw [scope, hscoped, if_pos rfl, Table.notDeleted_eq hcolumn]
    simp only [List.append_assoc]
  | false =>
    refine iff_of_false (Predicate.not_testsStamp_all fun part hpart => ?_) Bool.false_ne_true
    rw [scope, hscoped, if_neg Bool.false_ne_true] at hpart
    simp only [List.mem_append, List.mem_singleton] at hpart
    rcases hpart with hpart | hpart | hpart | rfl
    · obtain ⟨g, -, hg⟩ := forall₂_mem_right hgroups part hpart
      obtain ⟨-, fs, -, rfl⟩ := Compiler.group_eq_ok hg
      exact Predicate.getLast?_grouped _
    · obtain ⟨name, -, rfl⟩ := List.mem_map.mp hpart
      exact Predicate.getLast?_holdsSomething s.dialect name
    · obtain ⟨text, args, rfl⟩ := hraw part hpart
      exact Predicate.getLast?_grouped _
    · decide

end Selection

/-! ### What an update goes through -/

namespace Writer
variable {w : Writer} {id limit : Value} {past : List Exchange} {rows rows' : List Row}

theorem not_readBack_of_onlySelects (h : OnlySelects past) : ¬ w.ReadBack id past rows := by
  rintro ⟨before, p, row, result, statement, limit, -, rfl⟩
  have hselect := h ⟨.write false, w.updating row p, limit⟩ result (List.mem_append_right before List.mem_cons_self)
  exact Statement.IsChange.not_isSelect (isChange_updating _) hselect

theorem ReadBack.rows_eq {statement : Statement}
    (h : w.ReadBack id (past ++ [.answered ⟨.rows, statement, limit⟩ rows]) rows') : rows = rows' := by
  obtain ⟨before, p, row, result, statement', limit', -, heq⟩ := h
  have hlast := congrArg List.getLast? heq
  rw [List.getLast?_concat, List.getLast?_append_of_ne_nil _ (List.cons_ne_nil _ _)] at hlast
  cases hlast
  rfl

/-- A program that only reads, before anything is changed. -/
theorem course_onlySelects {α : Type} {asks : Request → Prop} {ends : α → Prop}
    (hasks : ∀ r, asks r → r.Reads ∧ w.UpdateAsks id r) : ∀ {p : Program α} {past : List Exchange},
      p.Always asks ends → OnlySelects past →
        p.Course (fun _ r => w.UpdateAsks id r) (w.LosesChanged id) (fun past _ => OnlySelects past) past
  | .done _, _, _, hpast => hpast
  | .fail _, _, _, hpast => fun hback => absurd hback (not_readBack_of_onlySelects hpast)
  | .ask r _, _, h, hpast => ⟨(hasks r h.1).2, fun answer =>
      course_onlySelects hasks (h.2 answer) (hpast.answered (hasks r h.1).1 answer)⟩
  | .draw _, _, h, hpast => fun key => course_onlySelects hasks (h key) (hpast.drawn key)

/-- A query for nothing but a key asks for no relations. -/
theorem preloads_reader {q : Query} {preloads : List Preload} (hq : w.reader.queryById id = .ok q)
    (h : (w.reader.withQuery q).prepare q = .ok preloads) : preloads = [] := by
  obtain ⟨-, -, h⟩ := bind_eq_ok.mp h
  rw [Selection.queryById_eq_ok hq] at h
  exact (Except.ok.inj h).symm

/-- Reading back: the row is found, or there is no such row. -/
theorem course_readBack (hpast : ∀ rows, ¬ w.ReadBack id past rows) (limit : Value) :
    (w.reader.find id limit).Course (fun _ r => w.UpdateAsks id r) (w.LosesChanged id)
      (fun past _ => ¬ w.ReadBack id past []) past := by
  have hbefore {α : Type} (r : Outcome α) : FailsOnly (w.LosesChanged id past) r := by
    cases r with
    | ok a => exact trivial
    | error f => exact fun hback => absurd hback (hpast [])
  refine course_lift_bind (hbefore _) fun q hq => ?_
  replace hq := mapError_eq_ok.mp hq
  refine course_lift_bind (hbefore _) fun preloads hpreloads => course_lift_bind (hbefore _) fun statement hst => ?_
  have hreads := Selection.reads_of_select hst
  rw [preloads_reader hq hpreloads]
  refine course_bind.mpr ⟨.readBack _ hreads.table ⟨q, hq, hreads.restriction⟩, fun rows => ?_⟩
  cases rows with
  | nil => exact fun _ => rfl
  | cons row rows =>
    -- A row was found, so whatever goes wrong from here on is not that it is missing.
    have hafter {α : Type} {st : Statement} {limit : Value} (r : Outcome α) :
        FailsOnly (w.LosesChanged id (past ++ [.answered ⟨.rows, st, limit⟩ (row :: rows)])) r := by
      cases r with
      | ok a => exact trivial
      | error f => exact fun hback => nomatch hback.rows_eq
    refine course_lift_bind (hafter _) fun decoded _ => ?_
    refine course_lift (hafter _) fun found _ => ?_
    cases found with
    | nil => exact fun hback => nomatch hback.rows_eq
    | cons value found => exact fun hback => nomatch hback.rows_eq

/-- What an update by key goes through. -/
theorem course_updateById_readBack (now : Instant) (record timeout : Value) :
    (w.updateById now id record timeout).Course (fun _ r => w.UpdateAsks id r) (w.LosesChanged id)
      (fun past _ => ¬ w.ReadBack id past []) [] := by
  have hearly {α : Type} {past : List Exchange} (hpast : OnlySelects past) (r : Outcome α) :
      FailsOnly (w.LosesChanged id past) r := by
    cases r with
    | ok a => exact trivial
    | error f => exact fun hback => absurd hback (not_readBack_of_onlySelects hpast)
  refine course_lift_bind (hearly onlySelects_nil _) fun q hq => ?_
  refine course_lift_bind (hearly onlySelects_nil _) fun _ _ => ?_
  refine course_lift_bind (hearly onlySelects_nil _) fun p hp => ?_
  have hkeyed : w.selection.KeyedBy id p := ⟨q, mapError_eq_ok.mp hq, hp⟩
  have hreads := Request.reads_probing w p (w.selection.callTimeout timeout)
  refine course_bind.mpr ⟨.probe _ hkeyed, fun rows => ?_⟩
  have hprobed := onlySelects_nil.answered hreads rows
  change (Program.done rows.head?).Course _ _ _ _
  cases rows.head? with
  | none => exact fun hback => absurd hback (not_readBack_of_onlySelects hprobed)
  | some current =>
    refine course_lift_bind (hearly hprobed _) fun row hrow => ?_
    split
    · exact course_readBack (fun _ => not_readBack_of_onlySelects hprobed) _
    have hasks : ∀ r, r.Reads ∧ w.UpdateAsks id r → r.Reads ∧ w.UpdateAsks id r := fun _ h => h
    have hcheck : ((w.uniqueness.touchedBy (.dict row)).check (.dict (overlay current row)) id .none
        (w.selection.callTimeout timeout)).Always (fun r => r.Reads ∧ w.UpdateAsks id r) fun _ => True :=
      Uniqueness.always_check fun check _ =>
        ⟨Request.reads_probe _ _ _ _, .rule ⟨_, check.2, id, .none, rfl, rfl, rfl, rfl⟩⟩
    refine (course_onlySelects hasks hcheck hprobed).bind fun past _ hpast => ?_
    refine course_bind.mpr (course_bind.mpr ⟨.change row _ hkeyed, fun result => ?_⟩)
    refine course_readBack (fun rows hback => ?_) _
    obtain ⟨before, p', row', result', statement, limit, -, heq⟩ := hback
    have hlast := congrArg List.getLast? heq
    rw [List.getLast?_concat, List.getLast?_append_of_ne_nil _ (List.cons_ne_nil _ _)] at hlast
    cases hlast

/-- What was updated by key is read back among the rows that are not stamped, whatever the update was about: the
    reading has the test for the stamp as its last condition just like the probe and the change if and only if the
    selection leaves stamped rows out. If the row that was changed is not found again, the call fails with that, and
    it never ends with a result. -/
theorem read_back_tests_stamp {w : Writer} {column : String} (hcolumn : w.selection.table.softDelete = some column)
    (hraw : ∀ r ∈ w.selection.raw, ∃ text args, r = Predicate.raw text args) (now : Instant)
    (id record timeout : Value) :
    (∀ p p', w.selection.KeyedBy id p → w.reader.KeyedBy id p' →
      p'.TestsStamp w.selection.dialect column ∧
        ((p'.TestsStamp w.selection.dialect column ↔ p.TestsStamp w.selection.dialect column) ↔
          w.selection.hidesDeleted = true)) ∧
    (w.updateById now id record timeout).Course (fun _ r => w.UpdateAsks id r) (w.LosesChanged id)
      (fun past _ => ¬ w.ReadBack id past []) [] := by
  refine ⟨fun p p' hp hp' => ?_, course_updateById_readBack now record timeout⟩
  have hread : p'.TestsStamp w.selection.dialect column :=
    (hp'.testsStamp_iff hcolumn fun _ hr => nomatch hr).mpr rfl
  refine ⟨hread, ?_⟩
  rw [← hp.testsStamp_iff hcolumn hraw]
  exact ⟨fun h => h.mp hread, fun h => iff_of_true hread h⟩

/-- A writer that does not leave stamped rows out changes one of them without the test, and looks for it with it. -/
theorem read_back_tests_stamp_unscoped :
    let posts : Table := ⟨"posts", "id", false, none, none, some "deleted_at", []⟩
    let w : Writer := .ofSelection (Selection.all .sqlite posts .standard).unscoped
    ∃ p p', w.selection.KeyedBy (.int 1) p ∧ w.reader.KeyedBy (.int 1) p' ∧
      p'.TestsStamp .sqlite "deleted_at" ∧ ¬ p.TestsStamp .sqlite "deleted_at" := by
  intro posts w
  let byId : Query := Query.empty.withSearch [⟨[⟨"id", .int 1, .eq⟩], .and⟩]
  have hp : w.selection.KeyedBy (.int 1) ⟨"(\"id\" = ?)", [.int 1]⟩ := ⟨byId, rfl, rfl⟩
  have hp' : w.reader.KeyedBy (.int 1) ⟨"(\"id\" = ?) AND \"deleted_at\" IS NULL", [.int 1]⟩ := ⟨byId, rfl, rfl⟩
  obtain ⟨hagree, -⟩ := read_back_tests_stamp (w := w) rfl (fun _ hr => nomatch hr) ⟨⟨2024, 1, 1⟩, ⟨0, 0, 0, 0, none⟩⟩
    (.int 1) (.dict []) .null
  obtain ⟨hread, hscoped⟩ := hagree _ _ hp hp'
  refine ⟨_, _, hp, hp', hread, fun htests => ?_⟩
  exact absurd (hscoped.mp (iff_of_true hread htests)) Bool.false_ne_true

end Writer

end TableQuery
