import TableQuery.Proofs.ColumnPolicies
import TableQuery.Proofs.ServiceCalls
import TableQuery.Proofs.SpelledStatements

/-! Names in statements, traced to where they come from. A query, a table, its relations and the rules are checked, so
    that their names are identifiers. The columns of a record, and the columns that a model has for the fields of a
    rule, are not: they are written as they are. -/

namespace TableQuery
open Program

/-! ### Tables as they are made -/

/-- Links are made of names that are checked. -/
def Link.Made (l : Link) : Prop :=
  ∃ name localKey remoteKey many, Link.make name localKey remoteKey many = .ok l

/-- Tables are made of names that are checked, and of relations to tables that are made so, too. -/
inductive Table.Made : Table → Prop
  | make {p : Parts} {t : Table} : (∀ r ∈ p.relations, r.1.Made) → (∀ r ∈ p.relations, Made r.2) →
    Table.make p = .ok t → Made t
  | withRelations {t : Table} {more : List (Link × Table)} : Made t → (∀ r ∈ more, r.1.Made) →
    (∀ r ∈ more, Made r.2) → Made (t.withRelations more)

/-- The names that a table has for itself and for the columns with a role of their own. -/
inductive Table.Names (t : Table) : String → Prop
  | name : Names t t.name
  | primaryKey : Names t t.primaryKey
  | createdAt {c : String} : t.createdAt = some c → Names t c
  | updatedAt {c : String} : t.updatedAt = some c → Names t c
  | softDelete {c : String} : t.softDelete = some c → Names t c

theorem Link.Made.localKey {l : Link} (h : l.Made) : isName l.localKey = true := by
  obtain ⟨name, localKey, remoteKey, many, h⟩ := h
  obtain ⟨_, -, h⟩ := bind_eq_ok.mp h
  obtain ⟨_, hlocal, h⟩ := bind_eq_ok.mp h
  obtain ⟨_, -, h⟩ := bind_eq_ok.mp h
  cases h
  exact (Value.asName_eq_ok.mp hlocal).2

theorem Link.Made.remoteKey {l : Link} (h : l.Made) : isName l.remoteKey = true := by
  obtain ⟨name, localKey, remoteKey, many, h⟩ := h
  obtain ⟨_, -, h⟩ := bind_eq_ok.mp h
  obtain ⟨_, -, h⟩ := bind_eq_ok.mp h
  obtain ⟨_, hremote, h⟩ := bind_eq_ok.mp h
  cases h
  exact (Value.asName_eq_ok.mp hremote).2

namespace Table
variable {t target : Table} {link : Link}

theorem isName_of_optionalColumn {v : Value} {column : Option String} {c : String}
    (h : optionalColumn v = .ok column) (hc : column = some c) : isName c = true := by
  subst hc
  unfold optionalColumn at h
  split at h
  · cases h
  · cases hname : v.asName "column" with
    | error e =>
      rw [hname] at h
      cases h
    | ok name =>
      rw [hname] at h
      cases h
      exact (Value.asName_eq_ok.mp hname).2

theorem Made.isName (h : t.Made) {n : String} (hn : t.Names n) : isName n = true := by
  induction h with
  | make _ _ h =>
    obtain ⟨_, hname, h⟩ := bind_eq_ok.mp h
    obtain ⟨_, hkey, h⟩ := bind_eq_ok.mp h
    obtain ⟨_, hcreated, h⟩ := bind_eq_ok.mp h
    obtain ⟨_, hupdated, h⟩ := bind_eq_ok.mp h
    obtain ⟨_, hdelete, h⟩ := bind_eq_ok.mp h
    cases h
    cases hn with
    | name => exact (Value.asName_eq_ok.mp hname).2
    | primaryKey => exact (Value.asName_eq_ok.mp hkey).2
    | createdAt hc => exact isName_of_optionalColumn hcreated hc
    | updatedAt hc => exact isName_of_optionalColumn hupdated hc
    | softDelete hc => exact isName_of_optionalColumn hdelete hc
  | withRelations _ _ _ ih =>
    refine ih ?_
    cases hn with
    | name => exact .name
    | primaryKey => exact .primaryKey
    | createdAt hc => exact .createdAt hc
    | updatedAt hc => exact .updatedAt hc
    | softDelete hc => exact .softDelete hc

theorem Made.relations (h : t.Made) : ∀ r ∈ t.relations, r.1.Made ∧ r.2.Made := by
  induction h with
  | @make p t hlinks htables h =>
    have hrelations : t.relations = p.relations := by
      obtain ⟨_, -, h⟩ := bind_eq_ok.mp h
      obtain ⟨_, -, h⟩ := bind_eq_ok.mp h
      obtain ⟨_, -, h⟩ := bind_eq_ok.mp h
      obtain ⟨_, -, h⟩ := bind_eq_ok.mp h
      obtain ⟨_, -, h⟩ := bind_eq_ok.mp h
      cases h
      rfl
    rw [hrelations]
    exact fun r hr => ⟨hlinks r hr, htables r hr⟩
  | withRelations _ hlinks htables ih =>
    intro r hr
    rcases List.mem_append.mp hr with hr | hr
    · exact ih r hr
    · exact ⟨hlinks r hr, htables r hr⟩

theorem Made.relation (h : t.Made) {name : String} (hr : t.relation name = .ok (link, target)) :
    link.Made ∧ target.Made := h.relations _ (mem_of_relation hr)

theorem Made.leads (h : t.Made) {path : List String} (hpath : t.Leads path target) : target.Made := by
  induction hpath with
  | here _ => exact h
  | step hr _ ih => exact ih (h.relation hr).2

theorem Made.reaches (h : t.Made) (hreach : t.Reaches link target) : link.Made ∧ target.Made := by
  obtain ⟨path, owner, hpath, hr⟩ := hreach
  exact (h.leads hpath).relation hr

end Table

/-! ### Writers and services as they are made -/

/-- The fields of a rule that is made are names. -/
theorem UniqueRule.isName_of_make {fields : List Value} {rule : UniqueRule} (h : make fields = .ok rule) :
    ∀ field ∈ rule.fields, isName field = true := by
  unfold make at h
  split at h
  · cases h
  · split at h
    · rename_i names hnames
      cases h
      intro field hfield
      obtain ⟨v, -, hv⟩ := forall₂_mem_right (mapM_eq_ok.mp hnames) field hfield
      exact (Value.asName_eq_ok.mp hv).2
    · cases h

theorem UniqueRule.isName_of_listOf {single together : Value} {rules : List UniqueRule}
    (h : listOf single together = .ok rules) : ∀ rule ∈ rules, ∀ field ∈ rule.fields, isName field = true := by
  obtain ⟨names, -, h⟩ := bind_eq_ok.mp h
  obtain ⟨one, hone, h⟩ := bind_eq_ok.mp h
  obtain ⟨groups, -, h⟩ := bind_eq_ok.mp h
  obtain ⟨more, hmore, h⟩ := bind_eq_ok.mp h
  cases h
  intro rule hrule
  rcases List.mem_append.mp hrule with hrule | hrule
  · obtain ⟨name, -, hmake⟩ := forall₂_mem_right (mapM_eq_ok.mp hone) rule hrule
    exact isName_of_make hmake
  · obtain ⟨group, -, hmake⟩ := forall₂_mem_right (mapM_eq_ok.mp hmore) rule hrule
    obtain ⟨fields, -, hmake⟩ := bind_eq_ok.mp hmake
    exact isName_of_make hmake

theorem Writer.Built.rules {w : Writer} (h : w.Built) :
    ∀ rule ∈ w.rules, ∀ field ∈ rule.fields, isName field = true := by
  induction h with
  | start => exact fun rule hrule => (nomatch hrule)
  | restrict _ _ _ ih | withQuery _ _ ih | unscoped _ ih | withTimeout _ _ ih => exact ih
  | allowing _ hw ih | denying _ hw ih =>
    obtain ⟨policy, -, hw⟩ := bind_eq_ok.mp hw
    cases hw
    exact ih
  | unique _ hw ih | uniqueTogether _ hw ih =>
    obtain ⟨rules, hrules, hw⟩ := bind_eq_ok.mp hw
    cases hw
    intro rule hrule
    rcases List.mem_append.mp hrule with hrule | hrule
    · exact ih rule hrule
    · exact UniqueRule.isName_of_listOf hrules rule hrule

/-- A service that is made for a table that is made, or for the name of one. -/
def Service.Made (s : Service) : Prop := ∃ store table model policy settings timeout,
  (∀ t, table = .described t → t.Made) ∧ Service.make store table model policy settings timeout = .ok s

/-- A writer whose table is made and whose rules are about names. -/
structure Writer.Sound (w : Writer) : Prop where
  table : w.selection.table.Made
  rules : ∀ rule ∈ w.rules, ∀ field ∈ rule.fields, isName field = true

theorem TableReference.made_of_resolve {reference : TableReference} {t : Table}
    (hmade : ∀ t, reference = .described t → t.Made) (h : reference.resolve = .ok t) : t.Made := by
  unfold resolve at h
  split at h
  · cases h
    exact hmade _ rfl
  · refine .make ?_ ?_ (Compiler.ofQuery_eq_ok.mp h)
    · exact List.forall_mem_nil _
    · exact List.forall_mem_nil _
  · cases h

theorem Service.Made.sound {s : Service} (h : s.Made) {call : Call} {w : Writer} (hw : call.writer s = .ok w) :
    w.Sound := by
  obtain ⟨store, table, model, policy, settings, timeout, htable, h⟩ := h
  obtain ⟨t, ht, h⟩ := bind_eq_ok.mp h
  obtain ⟨rules, hrules, h⟩ := bind_eq_ok.mp h
  cases h
  obtain ⟨htable', -, hsub⟩ := Call.writer_eq_ok hw
  refine ⟨?_, fun rule hrule => UniqueRule.isName_of_listOf hrules rule (hsub rule hrule)⟩
  rw [htable']
  exact TableReference.made_of_resolve htable ht

/-! ### What a record brings along -/

/-- The record that an operation writes, and whether only what was set on it counts. -/
def Operation.record? : Operation → Option (Bool × Value)
  | create _ record => some (false, record)
  | update _ record | updateById _ _ record => some (true, record)
  | _ => none

/-- The names that nobody checks: in a change of rows the columns of the record, which are keys of a dictionary or
    aliases of a model; in what is asked before it the columns that the model of the rows has for fields of rules. -/
inductive Operation.Brings (w : Writer) (op : Operation) : RequestKind → String → Prop
  | column {givenOnly returning : Bool} {record : Value} {given : Row} {c : String} :
    op.record? = some (givenOnly, record) → record.toRow givenOnly = .ok given → c ∈ given.columns →
    Brings w op (.write returning) c
  | field {recorded : Bool × Value} {rule : UniqueRule} {field : String} : op.record? = some recorded →
    rule ∈ w.rules → field ∈ rule.fields → Brings w op .value (Model.columnFor w.selection.model field)

/-- What may stand as a name in a request of an operation: an identifier, or what the record brings along. -/
def Operation.MayName (w : Writer) (op : Operation) (kind : RequestKind) (n : String) : Prop :=
  (Value.text n).IsIdentifier ∨ op.Brings w kind n

/-- All names in a request are identifiers, apart from those that the record of the operation brings along. -/
def Operation.SpelledBy (w : Writer) (op : Operation) (r : Request) : Prop :=
  Spelled w.selection.dialect (op.MayName w r.kind) (fun text => ∃ p ∈ w.selection.raw, text = p.sql) r.statement.sql

namespace Writer
variable {w : Writer} {now : Instant} {key : Value} {row given : Row} {record : Value} {c : String}

theorem mem_columns_stamped {column : Option String} (h : c ∈ (stamped now row column).columns) :
    c ∈ row.columns ∨ column = some c := by
  cases column with
  | none => exact .inl h
  | some column =>
    rw [stamped] at h
    split at h
    · exact (Row.mem_columns_put.mp h).imp_right fun hc => congrArg some hc.symm
    · exact .inl h

theorem mem_columns_keyed (h : c ∈ (w.keyed key row).columns) : c ∈ row.columns ∨ c = w.selection.table.primaryKey := by
  unfold keyed at h
  dsimp only at h
  split at h
  · split at h
    · exact .inl ((List.filter_sublist.map Prod.fst).subset h)
    · exact Row.mem_columns_put.mp h
  · exact .inl h

/-- A row to insert has no columns but those of the record and those that the table names. -/
theorem mem_columns_completed (h : c ∈ (w.completed now key given).columns) :
    c ∈ given.columns ∨ w.selection.table.Names c := by
  replace h := ((List.filter_sublist.trans (sublist_without _ _)).map Prod.fst).subset h
  rcases mem_columns_stamped h with h | hc
  · rcases mem_columns_stamped h with h | hc
    · rcases mem_columns_keyed h with h | rfl
      · exact .inl (((w.sublist_withoutRelations given).map Prod.fst).subset h)
      · exact .inr .primaryKey
    · exact .inr (.createdAt hc)
  · exact .inr (.updatedAt hc)

theorem exists_given_of_insertedRow (h : (w.insertedRow now record).CanEnd row) :
    ∃ given key, record.toRow false = .ok given ∧ row = w.completed now key given := by
  cases hgiven : record.toRow false with
  | error f =>
    unfold insertedRow at h
    rw [hgiven] at h
    exact h.elim
  | ok given =>
    -- Whatever form a record comes in, it is inserted like the dictionary that it stands for.
    have heq : w.insertedRow now record = w.insertedRow now (.dict given) := by
      unfold insertedRow
      rw [hgiven]
      rfl
    rw [heq, insertedRow_dict] at h
    split at h
    · obtain ⟨key, h⟩ := h
      exact ⟨given, key, rfl, h.symm⟩
    · exact ⟨given, .null, rfl, h.symm⟩

theorem mem_columns_updatable (h : c ∈ (w.updatable given).columns) : c ∈ given.columns :=
  ((List.filter_sublist.trans ((sublist_without _ _).trans
    (List.filter_sublist.trans (w.sublist_withoutRelations given)))).map Prod.fst).subset h

/-- An update writes no columns but those of the record and those that the table names. -/
theorem exists_given_of_updatedColumns (h : w.updatedColumns now record = .ok row) :
    ∃ given, record.toRow true = .ok given ∧ ∀ c ∈ row.columns, c ∈ given.columns ∨ w.selection.table.Names c := by
  obtain ⟨given, hgiven, -⟩ := bind_eq_ok.mp h
  have heq : w.updatedColumns now record = w.updatedColumns now (.dict given) := by
    unfold updatedColumns
    rw [hgiven]
    rfl
  rw [heq, updatedColumns_dict, Except.ok.injEq] at h
  refine ⟨given, hgiven, fun c hc => ?_⟩
  rw [← h] at hc
  split at hc
  · exact .inl (mem_columns_updatable hc)
  · split at hc
    · rename_i column hcolumn
      rcases Row.mem_columns_put.mp hc with hc | rfl
      · exact .inl (mem_columns_updatable hc)
      · exact .inr (.updatedAt hcolumn)
    · exact .inl (mem_columns_updatable hc)

end Writer

/-! ### What is asked -/

namespace Selection
variable {s : Selection} {q : Query} {statement : Select} {named given : String → Prop}
  (hname : ∀ n, isName n = true → named n) (htable : s.table.Made)
include hname htable

theorem spelled_of_reaches {link : Link} {target : Table} (h : s.table.Reaches link target) (keys : List Value) :
    Spelled s.dialect named given (Preload.statement s.dialect link target keys).sql := by
  obtain ⟨hlink, htarget⟩ := htable.reaches h
  exact Preload.spelled_statement (hname _ hlink.remoteKey) (hname _ (htarget.isName .name))
    (fun c hc => hname c (htarget.isName (.softDelete hc))) keys

theorem Reads.named_table (h : s.Reads q statement) : named statement.table := by
  rw [h.table]
  exact hname _ (htable.isName .name)

variable (hraw : ∀ r ∈ s.raw, given r.sql)
include hraw

theorem spelled_restriction {p : Predicate} (h : s.predicate q = .ok p) : Spelled s.dialect named given p.sql :=
  spelled_predicate hname (fun c hc => hname c (htable.isName (.softDelete hc))) hraw h

theorem Selects.spelled_rows (h : s.Selects q statement) :
    Spelled s.dialect named given (statement.rows s.dialect).sql :=
  Select.spelled_rows (h.named_table hname htable) (spelled_restriction hname htable hraw h.restriction)
    (fun column hcolumn => hname _ (h.columns column hcolumn)) fun entry hentry => hname _ (h.order entry hentry)

theorem Reads.spelled_count (h : s.Reads q statement) :
    Spelled s.dialect named given (statement.count s.dialect).sql :=
  Select.spelled_count (h.named_table hname htable) (spelled_restriction hname htable hraw h.restriction)

theorem Reads.spelled_aggregate (h : s.Reads q statement) {function column : String}
    (hfunction : function ∈ statementWords) (hcolumn : isName column = true) :
    Spelled s.dialect named given (statement.aggregate s.dialect function column).sql :=
  Select.spelled_aggregate (h.named_table hname htable) (spelled_restriction hname htable hraw h.restriction)
    hfunction (hname _ hcolumn)

end Selection

/-- A probe is about columns that the model has for the fields of a rule. -/
theorem Uniqueness.exists_field_of_enforced {u : Uniqueness} {row : Row} {check : UniqueRule × List (String × Value)}
    (h : check ∈ u.enforced (.dict row)) {pair : String × Value} (hpair : pair ∈ check.2) :
    ∃ rule ∈ u.rules, ∃ field ∈ rule.fields, pair.1 = Model.columnFor u.model field := by
  rw [enforced_eq] at h
  obtain ⟨rule, hrule, rfl⟩ := List.mem_map.mp h
  obtain ⟨field, hfield, rfl⟩ := List.mem_map.mp hpair
  exact ⟨rule, (List.mem_filter.mp hrule).1, field, hfield, rfl⟩

namespace Operation

section
variable {w : Writer} {op : Operation} {kind : RequestKind} {timeout : Value}

theorem mayName_of_isName (n : String) (h : isName n = true) : op.MayName w kind n :=
  .inl (Compiler.isIdentifier_of_isName h)

theorem given_of_mem (r : Predicate) (h : r ∈ w.selection.raw) : ∃ p ∈ w.selection.raw, r.sql = p.sql := ⟨r, h, rfl⟩

variable (hw : w.Sound)
include hw

theorem mayName_of_names {n : String} (h : w.selection.table.Names n) : op.MayName w kind n :=
  mayName_of_isName n (hw.table.isName h)

theorem spelledBy_probe {recorded : Bool × Value} (hop : op.record? = some recorded) {rules : List UniqueRule}
    (hrules : ∀ rule ∈ rules, rule ∈ w.rules) {row : Row} {check : UniqueRule × List (String × Value)}
    (hcheck : check ∈ Uniqueness.enforced { w.uniqueness with rules } (.dict row)) (id : Value) {excluded : Predicate}
    (he : Spelled w.selection.dialect (op.MayName w .value) (fun text => ∃ p ∈ w.selection.raw, text = p.sql)
      excluded.sql) :
    op.SpelledBy w ⟨.value, Uniqueness.probe { w.uniqueness with rules } check.2 id excluded, timeout⟩ := by
  refine Uniqueness.spelled_probe (u := { w.uniqueness with rules }) (mayName_of_names hw .name)
    (mayName_of_names hw .primaryKey) (fun _ hc => mayName_of_names hw (.softDelete hc)) (fun pair hpair => ?_) id he
  obtain ⟨rule, hrule, field, hfield, heq⟩ := Uniqueness.exists_field_of_enforced hcheck hpair
  rw [heq]
  exact .inr (.field hop (hrules rule hrule) hfield)

theorem spelled_selected {q : Query} {p : Predicate} (h : w.selection.predicate q = .ok p) :
    Spelled w.selection.dialect (op.MayName w kind) (fun text => ∃ p ∈ w.selection.raw, text = p.sql) p.sql :=
  Selection.spelled_restriction mayName_of_isName hw.table given_of_mem h

theorem spelledBy_preload {link : Link} {target : Table} (keys : List Value)
    (h : w.selection.table.Reaches link target) :
    op.SpelledBy w ⟨.rows, Preload.statement w.selection.dialect link target keys, timeout⟩ :=
  Selection.spelled_of_reaches mayName_of_isName hw.table h keys

theorem spelledBy_rows {q : Query} {statement : Select} (h : w.selection.Selects q statement) :
    op.SpelledBy w ⟨.rows, statement.rows w.selection.dialect, timeout⟩ :=
  h.spelled_rows mayName_of_isName hw.table given_of_mem

theorem spelledBy_count {q : Query} {statement : Select} (h : w.selection.Reads q statement) :
    op.SpelledBy w ⟨.value, statement.count w.selection.dialect, timeout⟩ :=
  h.spelled_count mayName_of_isName hw.table given_of_mem

theorem spelledBy_aggregate {q : Query} {statement : Select} {function column : String}
    (hfunction : function ∈ statementWords) (h : w.selection.Reads q statement) (hcolumn : isName column = true) :
    op.SpelledBy w ⟨.value, statement.aggregate w.selection.dialect function column, timeout⟩ :=
  h.spelled_aggregate mayName_of_isName hw.table given_of_mem hfunction hcolumn

theorem spelledBy_deletion {now : Instant} {q : Query} {p : Predicate} (h : w.selection.predicate q = .ok p) :
    op.SpelledBy w ⟨.write false, w.selection.deletion now p, timeout⟩ :=
  Selection.spelled_deletion (mayName_of_names hw .name) (fun _ hc => mayName_of_names hw (.softDelete hc))
    (spelled_selected hw h)

theorem always_read_back (reader : Selection) (htable : reader.table = w.selection.table)
    (hdialect : reader.dialect = w.selection.dialect) (hraw : reader.raw = []) (id : Value) :
    (reader.find id timeout).Always (op.SpelledBy w) fun _ => True := by
  have hmade : reader.table.Made := htable ▸ hw.table
  have hgiven : ∀ r ∈ reader.raw, ∃ p ∈ w.selection.raw, r.sql = p.sql := by
    rw [hraw]
    exact List.forall_mem_nil _
  refine Selection.always_find_of_selects (fun q statement _ h => ?_) fun link target keys h => ?_
  · unfold SpelledBy
    rw [← hdialect]
    exact h.spelled_rows mayName_of_isName hmade hgiven
  · unfold SpelledBy
    rw [← hdialect]
    exact Selection.spelled_of_reaches mayName_of_isName hmade h keys

theorem always_create_spelled (now : Instant) (record : Value) :
    (w.create now record timeout).Always (SpelledBy w (.create now record)) fun _ => True := by
  have hrow {row : Row} (h : (w.insertedRow now record).CanEnd row) {returning : Bool} :
      ∀ c ∈ row.columns, MayName w (.create now record) (.write returning) c := by
    obtain ⟨given, key, hgiven, rfl⟩ := Writer.exists_given_of_insertedRow h
    intro c hc
    rcases Writer.mem_columns_completed hc with hc | hc
    · exact .inr (.column rfl hgiven hc)
    · exact mayName_of_names hw hc
  refine Writer.always_create ?_ ?_ ?_ ?_
  · exact fun row check hcheck => spelledBy_probe hw rfl (fun _ hrule => hrule) hcheck .null Spelled.none
  · exact fun row h _ => Writer.spelled_insertion (mayName_of_names hw .name) (hrow h) (by decide)
  · intro row h
    have hspelled : Spelled w.selection.dialect (MayName w (.create now record) (.write false))
        (fun text => ∃ p ∈ w.selection.raw, text = p.sql) ((w.insertion row).sql ++ "") :=
      Writer.spelled_insertion (mayName_of_names hw .name) (hrow h) (by decide)
    rwa [String.append_empty] at hspelled
  · exact fun id => always_read_back hw w.reader.unscoped rfl rfl rfl id

theorem mayName_updatedColumns {now : Instant} {record : Value} {row : Row}
    (hop : op.record? = some (true, record)) (h : w.updatedColumns now record = .ok row) {returning : Bool} :
    ∀ c ∈ row.columns, op.MayName w (.write returning) c := by
  obtain ⟨given, hgiven, hcolumns⟩ := Writer.exists_given_of_updatedColumns h
  intro c hc
  rcases hcolumns c hc with hc | hc
  · exact .inr (.column hop hgiven hc)
  · exact mayName_of_names hw hc

theorem always_update_spelled (now : Instant) (record : Value) :
    (w.update now record timeout).Always (SpelledBy w (.update now record)) fun _ => True := by
  refine Writer.always_update ?_ ?_ ?_
  · exact fun row p hp check hcheck =>
      spelledBy_probe hw rfl (fun _ hrule => hrule) hcheck .null (spelled_selected hw hp)
  · exact fun p hp => Writer.spelled_counting (mayName_of_names hw .name) (spelled_selected hw hp)
  · exact fun row p _ _ hp hrow _ => Writer.spelled_updating (mayName_of_names hw .name)
      (mayName_updatedColumns hw rfl hrow) (spelled_selected hw hp)

theorem always_updateById_spelled (now : Instant) (id record : Value) :
    (w.updateById now id record timeout).Always (SpelledBy w (.updateById now id record)) fun _ => True := by
  refine Writer.always_updateById ?_ ?_ ?_ ?_
  · exact fun q p _ hp => Writer.spelled_probing (mayName_of_names hw .name) (spelled_selected hw hp)
  · exact fun row current check hcheck =>
      spelledBy_probe hw rfl (fun _ hrule => (List.mem_filter.mp hrule).1) hcheck id Spelled.none
  · exact fun q row p _ hp hrow => Writer.spelled_updating (mayName_of_names hw .name)
      (mayName_updatedColumns hw rfl hrow) (spelled_selected hw hp)
  · exact always_read_back hw w.reader rfl rfl rfl id

theorem always_spelled (op : Operation) (timeout : Value) :
    (op.program w timeout).Always (op.SpelledBy w) fun _ => True := by
  cases op <;> refine always_void.mpr ?_
  case get =>
    exact Selection.always_get_of_selects (fun _ h => spelledBy_rows hw h) fun _ _ keys h => spelledBy_preload hw keys h
  case page =>
    exact Selection.always_page_of_selects (fun _ h => spelledBy_count hw h) (fun _ h => spelledBy_rows hw h)
      fun _ _ keys h => spelledBy_preload hw keys h
  case first =>
    exact Selection.always_first_of_selects (fun _ h => spelledBy_rows hw h)
      fun _ _ keys h => spelledBy_preload hw keys h
  case find id =>
    exact Selection.always_find_of_selects (fun _ _ _ h => spelledBy_rows hw h)
      fun _ _ keys h => spelledBy_preload hw keys h
  case count => exact Selection.always_count fun _ h => spelledBy_count hw h
  case sum field => exact Selection.always_sum_of_name fun _ _ h hc => spelledBy_aggregate hw (by decide) h hc
  case average field => exact Selection.always_average_of_name fun _ _ h hc => spelledBy_aggregate hw (by decide) h hc
  case exist => exact Selection.always_exist fun _ h => spelledBy_count hw h
  case existsById id => exact Selection.always_existsById fun _ _ _ h => spelledBy_count hw h
  case create now record => exact always_create_spelled hw now record
  case update now record => exact always_update_spelled hw now record
  case updateById now id record => exact always_updateById_spelled hw now id record
  case delete now => exact Selection.always_delete fun p _ _ hp => spelledBy_deletion hw hp
  case deleteById now id extra =>
    exact Selection.always_deleteById (fun _ _ _ h => spelledBy_count hw h) fun q p _ hp => spelledBy_deletion hw hp

end

/-! ### Columns that nobody checks -/

end Operation

namespace Writer
variable {w : Writer} {now : Instant} {record row : Row} {c : String}

/-- Whether an insertion may write what a record says of a column. -/
def mayInsert (w : Writer) (c : String) : Bool :=
  !w.selection.table.isRelation c && c ≠ w.selection.table.primaryKey && w.selection.table.softDelete ≠ some c &&
    w.columns.allows c

theorem mem_columns_of_mayInsert (h : (w.insertedRow now (.dict record)).CanEnd row) (hc : c ∈ record.columns)
    (hmay : w.mayInsert c = true) : c ∈ row.columns := by
  obtain ⟨given, key, hgiven, rfl⟩ := exists_given_of_insertedRow h
  cases hgiven
  obtain ⟨v, hv⟩ := Row.mem_columns_iff.mp hc
  simp only [mayInsert, Bool.and_eq_true, Bool.not_eq_true', decide_eq_true_eq] at hmay
  obtain ⟨⟨⟨hrelation, hkey⟩, hdelete⟩, hallows⟩ := hmay
  rw [Row.mem_columns_iff, completed, get?_apply, get?_without, if_neg hdelete, hallows, Bool.or_true, if_pos rfl,
    get?_stamped]
  split
  · exact ⟨_, rfl⟩
  rw [get?_stamped]
  split
  · exact ⟨_, rfl⟩
  rw [get?_keyed, if_neg hkey, get?_withoutRelations, hrelation, if_neg Bool.false_ne_true]
  exact ⟨v, hv⟩

theorem mem_columns_of_mayUpdate (h : w.updatedColumns now (.dict record) = .ok row) (hc : c ∈ record.columns)
    (hmay : w.mayUpdate c = true) : c ∈ row.columns := by
  obtain ⟨v, hv⟩ := Row.mem_columns_iff.mp hc
  rw [Row.mem_columns_iff, get?_updatedColumns h, updatedValue?]
  by_cases hupdated : w.selection.table.updatedAt = some c
  · rw [if_pos hupdated, if_pos (List.any_eq_true.mpr ⟨c, hc, hmay⟩)]
    exact ⟨_, rfl⟩
  · rw [if_neg hupdated, if_pos hmay]
    exact ⟨v, hv⟩

end Writer

/-- Whatever is stored and answered, a name in a statement is an identifier, or it comes from the record that is
    written, be it as a column or by way of the columns that a model has for the fields of rules. A query or a column
    to aggregate that is at fault is refused before anything is asked. The names of a record are not checked: whatever
    they are, what the policy lets through is written. -/
theorem Operation.names_traced (w : Writer) (s : Service) (now : Instant) (record : Row) (timeout : Value) :
    (w.Built → w.selection.table.Made → ∀ op : Operation,
      (op.program w timeout).Always (op.SpelledBy w) (fun _ => True) ∧
      ∀ q, op.Runs w q → op.Faulty w q → (op.program w timeout).Refuses) ∧
    (s.Made → ∀ call : Service.Call,
      (call.program s timeout).Always
        (fun r => ∃ w, call.writer s = .ok w ∧ w.selection.raw = [] ∧ call.operation.SpelledBy w r) (fun _ => True) ∧
      ((∀ w, call.writer s = .ok w → ∃ q, call.operation.Runs w q ∧ call.operation.Faulty w q) →
        (call.program s timeout).Refuses)) ∧
    (∀ row, (w.insertedRow now (.dict record)).CanEnd row →
      (∀ c ∈ record.columns, w.mayInsert c = true → c ∈ row.columns) ∧
      (row.isEmpty = false → ∃ returning ending, (w.create now (.dict record) timeout).CanAsk ⟨.write returning,
        { w.insertion row with sql := (w.insertion row).sql ++ ending }, w.selection.callTimeout timeout⟩)) ∧
    ∀ row, w.updatedColumns now (.dict record) = .ok row →
      (∀ c ∈ record.columns, w.mayUpdate c = true → c ∈ row.columns) ∧
      (∀ p, Compiler.validate w.selection.query = .ok () →
        w.selection.checkRestricted (.unrestrictedUpdate w.selection.table.name) = .ok () →
        w.selection.predicate w.selection.query = .ok p → row.isEmpty = false →
        (w.update now (.dict record) timeout).CanAsk
          ⟨.write false, w.updating row p, w.selection.callTimeout timeout⟩) ∧
      ∀ id q p, w.selection.queryById id = .ok q → Compiler.validate q = .ok () → w.selection.predicate q = .ok p →
        row.isEmpty = false → (w.updateById now id (.dict record) timeout).CanAsk
          ⟨.write false, w.updating row p, w.selection.callTimeout timeout⟩ := by
  have hrefuses {w : Writer} {op : Operation} {q : Query} (hq : op.Runs w q) (h : op.Faulty w q) :
      (op.program w timeout).Refuses := by
    cases hread : op.isRead with
    | true => exact refuses_reading hread hq h
    | false => exact refuses_writing hread hq h
  refine ⟨fun hbuilt htable op => ⟨always_spelled ⟨htable, hbuilt.rules⟩ op timeout, fun q => hrefuses⟩,
    fun hs call => ⟨?_, fun hfaulty => ?_⟩, fun row hrow => ⟨?_, ?_⟩, fun row hrow => ⟨?_, ?_, ?_⟩⟩
  · refine Service.Call.always_program fun w hw => ?_
    exact (always_spelled (hs.sound hw) _ timeout).mono
      (fun r hr => ⟨w, hw, (Service.Call.writer_eq_ok hw).2.1, hr⟩) fun _ h => h
  · refine Service.Call.refuses_program fun w hw => ?_
    obtain ⟨q, hq, h⟩ := hfaulty w hw
    exact hrefuses hq h
  · exact fun c hc hmay => Writer.mem_columns_of_mayInsert hrow hc hmay
  · exact fun hfull => Writer.canAsk_create hrow hfull
  · exact fun c hc hmay => Writer.mem_columns_of_mayUpdate hrow hc hmay
  · exact fun p hvalid hcheck hp hfull => Writer.canAsk_update hvalid hcheck hp hrow hfull
  · exact fun id q p hq hvalid hp hfull => Writer.canAsk_updateById hq hvalid hp hrow hfull

/-- A record with a blank in one of its keys: the name of the column is no identifier, and the row is inserted. A
    service for the same table refuses a query that asks for a column of this name. -/
theorem Operation.names_traced_users :
    let users : Table := ⟨"users", "id", false, none, none, none, []⟩
    let w : Writer := .ofSelection (Selection.all .sqlite users .standard)
    let s : Service := ⟨some ⟨.sqlite, .standard⟩, users, none, .standard, [], none, .null⟩
    let q : Query := { Query.empty with filter := [.text "na me"] }
    let byId : Query := Query.empty.withSearch [⟨[⟨"id", .int 1, .eq⟩], .and⟩]
    let now : Instant := ⟨⟨2024, 1, 1⟩, ⟨0, 0, 0, 0, none⟩⟩
    let row : Row := [("na me", .text "x")]
    (w.Built ∧ users.Made ∧ s.Made ∧ (w.insertedRow now (.dict row)).CanEnd row ∧
      w.updatedColumns now (.dict row) = .ok row ∧ w.selection.queryById (.int 1) = .ok byId ∧
      Compiler.validate byId = .ok () ∧ w.selection.predicate byId = .ok ⟨"(\"id\" = ?)", [.int 1]⟩ ∧
      ¬ (Value.text "na me").IsIdentifier) ∧
    ((create now (.dict row)).program w .null).Always (SpelledBy w (create now (.dict row))) (fun _ => True) ∧
    (∃ returning ending, (w.create now (.dict row) .null).CanAsk
      ⟨.write returning, ⟨"INSERT INTO \"users\" (\"na me\") VALUES (?)" ++ ending, [.text "x"]⟩, .null⟩) ∧
    (w.updateById now (.int 1) (.dict row) .null).CanAsk
      ⟨.write false, ⟨"UPDATE \"users\" SET \"na me\" = ? WHERE (\"id\" = ?)", [.text "x", .int 1]⟩, .null⟩ ∧
    (Service.Call.program s .null (.get (some q))).Refuses := by
  intro users w s q byId now row
  have hbuilt : w.Built := .start .sqlite users .standard none .empty .null
  have hmade : users.Made := .make (p := ⟨.text "users", .text "id", false, .null, .null, .null, []⟩)
    (List.forall_mem_nil _) (List.forall_mem_nil _) rfl
  have hservice : s.Made := by
    refine ⟨some ⟨.sqlite, .standard⟩, .described users, none, .standard, none, .null, ?_, rfl⟩
    rintro _ ⟨⟩
    exact hmade
  have hrow : (w.insertedRow now (.dict row)).CanEnd row := rfl
  have hpredicate : w.selection.predicate byId = .ok ⟨"(\"id\" = ?)", [.int 1]⟩ := rfl
  have hbad : ¬ (Value.text "na me").IsIdentifier := by
    rintro ⟨_, ⟨⟩, -, hchars⟩
    exact absurd (hchars ' ' (by decide)) (by decide)
  have hfaulty : ∀ w, Service.Call.writer s (.get (some q)) = .ok w → ∃ q, get.Runs w q ∧ get.Faulty w q := by
    rintro _ ⟨⟩
    exact ⟨q, rfl, .query (.filter List.mem_cons_self hbad)⟩
  have hinserted : (w.insertion row).sql = "INSERT INTO \"users\" (\"na me\") VALUES (?)" := by decide +kernel
  have hupdated : (w.updating row ⟨"(\"id\" = ?)", [.int 1]⟩).sql =
      "UPDATE \"users\" SET \"na me\" = ? WHERE (\"id\" = ?)" := by decide +kernel
  obtain ⟨hwriter, hserved, hinserts, hupdates⟩ := names_traced w s now row .null
  refine ⟨⟨hbuilt, hmade, hservice, hrow, rfl, rfl, rfl, hpredicate, hbad⟩, (hwriter hbuilt hmade _).1, ?_, ?_,
    (hserved hservice (.get (some q))).2 hfaulty⟩
  · rw [← hinserted]
    exact (hinserts _ hrow).2 rfl
  · rw [← hupdated]
    exact (hupdates _ rfl).2.2 (.int 1) byId _ rfl rfl hpredicate rfl

end TableQuery
