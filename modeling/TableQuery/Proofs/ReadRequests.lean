import TableQuery.Proofs.Compilation
import TableQuery.Proofs.RelationPaths
import TableQuery.Proofs.Requests
import TableQuery.Selection.Reading

/-! What the operations that read ask. Each rule reduces a property of all requests of an operation to the
    statements that the operation makes, which read the table under the predicate of its query, or load a
    relation. -/

namespace TableQuery
open Program

/-! ### Relations -/

namespace Preload
variable {d : Dialect} {timeout : Value} {asked : Request → Prop}

mutual

/-- Loading asks for the relations of the tree only. -/
theorem always_load : ∀ (n : Preload) (rows : List Row),
    (∀ link target keys, n.Has link target → asked ⟨.rows, statement d link target keys, timeout⟩) →
      (load d timeout rows n).Always asked fun _ => True
  | node link target children, rows, hload => by
    unfold load
    dsimp only
    split
    · exact always_lift.mpr fun _ _ => trivial
    · refine always_bind.mpr (always_fetchRows.mpr ⟨hload link target _ (.self link target children), fun raw => ?_⟩)
      refine always_lift_bind.mpr fun decoded _ => (always_loadAll children decoded fun n hn => ?_).bind fun _ => ?_
      · exact fun link' target' keys h => hload link' target' keys (.child hn h)
      · exact always_lift.mpr fun _ _ => trivial

theorem always_loadAll : ∀ (ns : List Preload) (rows : List Row),
    (∀ n ∈ ns, ∀ link target keys, n.Has link target → asked ⟨.rows, statement d link target keys, timeout⟩) →
      (loadAll d timeout rows ns).Always asked fun _ => True
  | [], _, _ => by
    unfold loadAll
    exact trivial
  | n :: ns, rows, hload => by
    unfold loadAll
    obtain ⟨hn, hns⟩ := List.forall_mem_cons.mp hload
    exact (always_load n rows hn).bind fun rows => always_loadAll ns rows hns

end

end Preload

namespace Selection
variable {s : Selection} {q : Query} {timeout : Value} {asked : Request → Prop}

/-- A reading of the table of a selection under the predicate of a query. -/
structure Reads (s : Selection) (q : Query) (statement : Select) : Prop where
  table : statement.table = s.table.name
  restriction : s.predicate q = .ok statement.restriction

theorem reads_of_select {preloads : List Preload} {statement : Select} (h : s.select q preloads = .ok statement) :
    s.Reads q statement := by
  obtain ⟨columns, -, h⟩ := bind_eq_ok.mp h
  obtain ⟨restriction, hrestriction, h⟩ := bind_eq_ok.mp h
  obtain ⟨order, -, h⟩ := bind_eq_ok.mp h
  cases h
  exact ⟨rfl, hrestriction⟩

/-- A reading of the table whose columns and order are checked names, too. -/
structure Selects (s : Selection) (q : Query) (statement : Select) : Prop extends s.Reads q statement where
  columns : ∀ column ∈ statement.columns, isName column = true
  order : ∀ entry ∈ statement.order, isName entry.1 = true

theorem selects_of_select {preloads : List Preload} {statement : Select} (h : s.select q preloads = .ok statement) :
    s.Selects q statement := by
  have hreads := reads_of_select h
  obtain ⟨columns, hcolumns, h⟩ := bind_eq_ok.mp h
  obtain ⟨restriction, hrestriction, h⟩ := bind_eq_ok.mp h
  obtain ⟨order, horder, h⟩ := bind_eq_ok.mp h
  cases h
  refine ⟨hreads, fun column hcolumn => ?_, fun entry hentry => ?_⟩
  · obtain ⟨v, -, hv⟩ := forall₂_mem_right (mapM_eq_ok.mp (mapError_eq_ok.mp hcolumns)) column hcolumn
    exact (Value.asName_eq_ok.mp hv).2
  · obtain ⟨o, -, ho⟩ := forall₂_mem_right (mapM_eq_ok.mp (mapError_eq_ok.mp horder)) entry hentry
    obtain ⟨column, hcolumn, ho⟩ := bind_eq_ok.mp ho
    cases ho
    exact (Value.asName_eq_ok.mp hcolumn).2

/-- Bounds change neither the table nor any of the names. -/
theorem Selects.bounded {statement : Select} (h : s.Selects q statement) (limit offset : Option Int) :
    s.Selects q { statement with limit, offset } := ⟨⟨h.table, h.restriction⟩, h.columns, h.order⟩

theorem reads_of_aggregateSelect {statement : Select} (h : s.aggregateSelect = .ok statement) :
    s.Reads s.query statement := by
  obtain ⟨-, -, h⟩ := bind_eq_ok.mp h
  obtain ⟨restriction, hrestriction, h⟩ := bind_eq_ok.mp h
  cases h
  exact ⟨rfl, hrestriction⟩

theorem resolved_of_prepare {preloads : List Preload} (h : s.prepare q = .ok preloads) :
    ∀ n ∈ preloads, Preload.Resolved s.table n := by
  obtain ⟨-, -, h⟩ := bind_eq_ok.mp h
  exact Preload.resolved_of_ofPaths (mapError_eq_ok.mp h)

/-! ### Rows -/

section
variable (hrows : ∀ statement : Select, s.Selects s.query statement →
    asked ⟨.rows, statement.rows s.dialect, s.callTimeout timeout⟩)
  (hload : ∀ link target keys, s.table.Reaches link target →
    asked ⟨.rows, Preload.statement s.dialect link target keys, s.callTimeout timeout⟩)
include hload

theorem always_fetch {statement : Select} {preloads : List Preload} (hresolved : ∀ n ∈ preloads, Preload.Resolved s.table n)
    (h : asked ⟨.rows, statement.rows s.dialect, s.callTimeout timeout⟩) :
    (s.fetch statement q preloads (s.callTimeout timeout)).Always asked fun _ => True := by
  refine always_bind.mpr (always_fetchRows.mpr ⟨h, fun _ => always_lift_bind.mpr fun decoded _ => ?_⟩)
  refine (Preload.always_loadAll preloads decoded fun n hn link target keys hhas => ?_).bind fun _ => ?_
  · exact hload link target keys ((hresolved n hn).reaches hhas)
  · exact always_lift.mpr fun _ _ => trivial

include hrows

theorem always_get_of_selects : (s.get timeout).Always asked fun _ => True :=
  always_lift_bind.mpr fun _ hprepare => always_lift_bind.mpr fun _ hst =>
    always_fetch hload (resolved_of_prepare hprepare) (hrows _ ((selects_of_select hst).bounded _ _))

theorem always_first_of_selects : (s.first timeout).Always asked fun _ => True := by
  refine always_lift_bind.mpr fun _ hprepare => always_lift_bind.mpr fun statement hst => ?_
  refine (always_fetch hload (resolved_of_prepare hprepare)
    (hrows _ ((selects_of_select hst).bounded (some 1) statement.offset))).bind fun rows => ?_
  cases rows with
  | nil => exact trivial
  | cons row rows => exact trivial

end

section
variable (hrows : ∀ statement : Select, s.Reads s.query statement →
    asked ⟨.rows, statement.rows s.dialect, s.callTimeout timeout⟩)
  (hload : ∀ link target keys, s.table.Reaches link target →
    asked ⟨.rows, Preload.statement s.dialect link target keys, s.callTimeout timeout⟩)
include hload hrows

theorem always_get : (s.get timeout).Always asked fun _ => True :=
  always_get_of_selects (fun statement h => hrows statement h.toReads) hload

theorem always_first : (s.first timeout).Always asked fun _ => True :=
  always_first_of_selects (fun statement h => hrows statement h.toReads) hload

end

/-! ### Counts and aggregates -/

section
variable (hcount : ∀ statement : Select, s.Reads s.query statement →
    asked ⟨.value, statement.count s.dialect, s.callTimeout timeout⟩)
include hcount

theorem always_countWithin : (s.countWithin (s.callTimeout timeout)).Always asked fun _ => True :=
  always_lift_bind.mpr fun statement hst => always_bind.mpr (always_fetchValue.mpr
    ⟨hcount statement (reads_of_aggregateSelect hst), fun _ => always_lift.mpr fun _ _ => trivial⟩)

theorem always_count : (s.count timeout).Always asked fun _ => True := always_countWithin hcount

theorem always_exist : (s.exist timeout).Always asked fun _ => True :=
  (always_count hcount).bind fun _ => trivial

theorem always_page_of_selects (hrows : ∀ statement : Select, s.Selects s.query statement →
      asked ⟨.rows, statement.rows s.dialect, s.callTimeout timeout⟩)
    (hload : ∀ link target keys, s.table.Reaches link target →
      asked ⟨.rows, Preload.statement s.dialect link target keys, s.callTimeout timeout⟩) :
    (s.page timeout).Always asked fun _ => True := by
  refine always_lift_bind.mpr fun _ hprepare => (always_countWithin hcount).bind fun total => ?_
  refine always_lift_bind.mpr fun statement hst => ?_
  exact (always_fetch hload (resolved_of_prepare hprepare) (hrows _ ((selects_of_select hst).bounded (some _) (some _)))).bind
    fun data => always_lift_bind.mpr fun _ _ => trivial

theorem always_page (hrows : ∀ statement : Select, s.Reads s.query statement →
      asked ⟨.rows, statement.rows s.dialect, s.callTimeout timeout⟩)
    (hload : ∀ link target keys, s.table.Reaches link target →
      asked ⟨.rows, Preload.statement s.dialect link target keys, s.callTimeout timeout⟩) :
    (s.page timeout).Always asked fun _ => True :=
  always_page_of_selects hcount (fun statement h => hrows statement h.toReads) hload

end

section
variable {function : String} {field : Value}

theorem always_aggregate_of_name
    (haggregate : ∀ (statement : Select) (column : String), s.Reads s.query statement → isName column = true →
      asked ⟨.value, statement.aggregate s.dialect function column, s.callTimeout timeout⟩) :
    (s.aggregate function field timeout).Always asked fun _ => True :=
  always_lift_bind.mpr fun statement hst => always_lift_bind.mpr fun column hcolumn => always_fetchValue.mpr
    ⟨haggregate statement column (reads_of_aggregateSelect hst) (Value.asName_eq_ok.mp (mapError_eq_ok.mp hcolumn)).2,
      fun _ => trivial⟩

theorem always_sum_of_name
    (haggregate : ∀ (statement : Select) (column : String), s.Reads s.query statement → isName column = true →
      asked ⟨.value, statement.aggregate s.dialect "SUM" column, s.callTimeout timeout⟩) :
    (s.sum field timeout).Always asked fun _ => True :=
  (always_aggregate_of_name haggregate).bind fun _ => always_lift.mpr fun _ _ => trivial

theorem always_average_of_name
    (haggregate : ∀ (statement : Select) (column : String), s.Reads s.query statement → isName column = true →
      asked ⟨.value, statement.aggregate s.dialect "AVG" column, s.callTimeout timeout⟩) :
    (s.average field timeout).Always asked fun _ => True :=
  (always_aggregate_of_name haggregate).bind fun _ => always_lift.mpr fun _ _ => trivial

theorem always_sum
    (haggregate : ∀ (statement : Select) (column : String), s.Reads s.query statement →
      asked ⟨.value, statement.aggregate s.dialect "SUM" column, s.callTimeout timeout⟩) :
    (s.sum field timeout).Always asked fun _ => True :=
  always_sum_of_name fun statement column h _ => haggregate statement column h

theorem always_average
    (haggregate : ∀ (statement : Select) (column : String), s.Reads s.query statement →
      asked ⟨.value, statement.aggregate s.dialect "AVG" column, s.callTimeout timeout⟩) :
    (s.average field timeout).Always asked fun _ => True :=
  always_average_of_name fun statement column h _ => haggregate statement column h

end

/-! ### By key -/

theorem always_find_of_selects {id : Value}
    (hrows : ∀ (q : Query) (statement : Select), s.queryById id = .ok q → s.Selects q statement →
      asked ⟨.rows, statement.rows s.dialect, s.callTimeout timeout⟩)
    (hload : ∀ link target keys, s.table.Reaches link target →
      asked ⟨.rows, Preload.statement s.dialect link target keys, s.callTimeout timeout⟩) :
    (s.find id timeout).Always asked fun _ => True :=
  always_lift_bind.mpr fun q hq => always_first_of_selects (s := s.withQuery q)
    (fun statement h => hrows q statement (mapError_eq_ok.mp hq) ⟨⟨h.table, h.restriction⟩, h.columns, h.order⟩) hload

theorem always_find {id : Value}
    (hrows : ∀ (q : Query) (statement : Select), s.queryById id = .ok q → s.Reads q statement →
      asked ⟨.rows, statement.rows s.dialect, s.callTimeout timeout⟩)
    (hload : ∀ link target keys, s.table.Reaches link target →
      asked ⟨.rows, Preload.statement s.dialect link target keys, s.callTimeout timeout⟩) :
    (s.find id timeout).Always asked fun _ => True :=
  always_find_of_selects (fun q statement hq h => hrows q statement hq h.toReads) hload

theorem always_existsById {id : Value}
    (hcount : ∀ (q : Query) (statement : Select), s.queryById id = .ok q → s.Reads q statement →
      asked ⟨.value, statement.count s.dialect, s.callTimeout timeout⟩) :
    (s.existsById id timeout).Always asked fun _ => True :=
  always_lift_bind.mpr fun q hq => always_exist (s := s.withQuery q)
    fun statement h => hcount q statement (mapError_eq_ok.mp hq) ⟨h.table, h.restriction⟩

end Selection
end TableQuery
