import TableQuery.Proofs.Assignments
import TableQuery.Proofs.BulkOperations
import TableQuery.Proofs.RuleChecks

/-! Which columns are written for a record, and what they hold. The answer is given column by column, without the
    order in which relations, keys, times and the policy are gone through; it is the same as long as the columns that
    a table treats in a way of their own have different names. -/

namespace TableQuery
open Program

/-- The columns with a role of their own and the names of the relations differ from each other. -/
def Table.NamesApart (t : Table) : Prop :=
  ([some t.primaryKey, t.createdAt, t.updatedAt, t.softDelete].filterMap id ++
    t.relations.map fun relation => relation.1.name).Nodup

instance (t : Table) : Decidable t.NamesApart := inferInstanceAs (Decidable (List.Nodup _))

/-- Whether a column is the name of a relation. -/
def Table.isRelation (t : Table) (c : String) : Bool := t.relations.any fun relation => relation.1.name = c

section
variable {t : Table} {c : String} (h : t.NamesApart)
include h

theorem Table.NamesApart.primaryKey : t.createdAt ≠ some t.primaryKey ∧ t.updatedAt ≠ some t.primaryKey ∧
    t.softDelete ≠ some t.primaryKey ∧ t.isRelation t.primaryKey = false := by
  unfold NamesApart at h
  unfold isRelation
  cases hcreated : t.createdAt <;> cases hupdated : t.updatedAt <;> cases hdelete : t.softDelete <;>
    simp [hcreated, hupdated, hdelete] at h ⊢ <;> grind

theorem Table.NamesApart.createdAt (hc : t.createdAt = some c) :
    t.updatedAt ≠ some c ∧ t.softDelete ≠ some c ∧ t.isRelation c = false := by
  unfold NamesApart at h
  unfold isRelation
  cases hupdated : t.updatedAt <;> cases hdelete : t.softDelete <;> simp [hc, hupdated, hdelete] at h ⊢ <;> grind

theorem Table.NamesApart.updatedAt (hc : t.updatedAt = some c) : t.softDelete ≠ some c ∧ t.isRelation c = false := by
  unfold NamesApart at h
  unfold isRelation
  cases hcreated : t.createdAt <;> cases hdelete : t.softDelete <;> simp [hc, hcreated, hdelete] at h ⊢ <;> grind

end

namespace Writer

/-! ### Columns and their values -/

/-- What an insertion writes into a column for a record, where `key` is what the generator gave. -/
def insertedValue? (w : Writer) (now : Instant) (key : Value) (record : Row) (c : String) : Option Value :=
  let t := w.selection.table
  if c = t.primaryKey then
    if (record.getD c).isNull then (if key.isNull then none else some key) else record.get? c
  else if t.createdAt = some c ∨ t.updatedAt = some c then
    some (if (record.getD c).isNull then .instant now else record.getD c)
  else if t.isRelation c ∨ t.softDelete = some c then none
  else if w.columns.allows c then record.get? c else none

/-- Whether an update may write what a record says of a column. -/
def mayUpdate (w : Writer) (c : String) : Bool :=
  !w.selection.table.isRelation c && c ≠ w.selection.table.primaryKey && w.selection.table.createdAt ≠ some c &&
    w.columns.allows c

/-- What an update writes into a column for a record. -/
def updatedValue? (w : Writer) (now : Instant) (record : Row) (c : String) : Option Value :=
  if w.selection.table.updatedAt = some c then
    if record.columns.any w.mayUpdate then some (.instant now) else none
  else if w.mayUpdate c then record.get? c else none

/-! ### Steps on the way to a row -/

section
variable {w : Writer} {now : Instant} {row record : Row} {c : String} {column : Option String}

theorem get?_withoutRelations (w : Writer) (row : Row) (c : String) :
    (w.withoutRelations row).get? c = if w.selection.table.isRelation c then none else row.get? c := by
  unfold withoutRelations Table.isRelation
  induction w.selection.table.relations generalizing row with
  | nil => rfl
  | cons relation relations ih =>
    rw [List.foldl_cons, ih, Row.get?_erase, List.any_cons]
    by_cases hc : relation.1.name = c
    · simp [hc]
    · rw [if_neg (Ne.symm hc), decide_eq_false hc, Bool.false_or]

theorem get?_without (row : Row) (column : Option String) (c : String) :
    (without row column).get? c = if column = some c then none else row.get? c := by
  cases column with
  | none => rfl
  | some column =>
    rw [without, Row.get?_erase]
    by_cases hc : c = column
    · simp [hc]
    · simp [hc, Ne.symm hc]

theorem get?_apply (p : ColumnPolicy) (row : Row) (keep : List String) (c : String) :
    (p.apply row keep).get? c = if keep.contains c || p.allows c then row.get? c else none :=
  Row.get?_filter (fun c => keep.contains c || p.allows c) row c

theorem get?_stamped (now : Instant) (row : Row) (column : Option String) (c : String) :
    (stamped now row column).get? c =
      if column = some c then some (if (row.getD c).isNull then .instant now else row.getD c) else row.get? c := by
  cases column with
  | none => rfl
  | some column =>
    rw [stamped]
    by_cases hc : column = c
    · subst hc
      rw [if_pos rfl]
      cases hnull : (row.getD column).isNull with
      | true => rw [if_pos rfl, if_pos rfl, Row.get?_put, if_pos rfl]
      | false => rw [if_neg Bool.false_ne_true, if_neg Bool.false_ne_true, Row.get?_of_getD hnull]
    · have hne : some column ≠ some c := fun h => hc (Option.some_inj.mp h)
      rw [if_neg hne]
      split
      · rw [Row.get?_put, if_neg (Ne.symm hc)]
      · rfl

end

/-! ### The row of an insertion -/

/-- The row with its own key, or else with the given one unless that is null. -/
def keyed (w : Writer) (key : Value) (row : Row) : Row :=
  let pk := w.selection.table.primaryKey
  if (row.getD pk).isNull then (if key.isNull then row.erase pk else row.put pk key) else row

/-- The row that is inserted for a record if the generator gives a key. -/
def completed (w : Writer) (now : Instant) (key : Value) (record : Row) : Row :=
  let t := w.selection.table
  let row := w.keyed key (w.withoutRelations record)
  let row := stamped now (stamped now row t.createdAt) t.updatedAt
  w.columns.apply (without row t.softDelete) ([some t.primaryKey, t.createdAt, t.updatedAt].filterMap id)

/-- Whether a record leaves its key to the generator. -/
def drawsKey (w : Writer) (record : Row) : Bool :=
  (record.getD w.selection.table.primaryKey).isNull && w.selection.table.generatesIds

section
variable {w : Writer} {now : Instant} {key : Value} {row record : Row} {c : String}

theorem withKey_eq (w : Writer) (row : Row) : w.withKey row =
    if w.drawsKey row then .draw fun key => .done (w.keyed key row) else .done (w.keyed .null row) := by
  unfold withKey Table.newKey drawsKey keyed
  dsimp only
  cases (row.getD w.selection.table.primaryKey).isNull with
  | false => rfl
  | true => cases w.selection.table.generatesIds <;> rfl

theorem insertedRow_dict (w : Writer) (now : Instant) (record : Row) : w.insertedRow now (.dict record) =
    if w.drawsKey (w.withoutRelations record) then .draw fun key => .done (w.completed now key record)
    else .done (w.completed now .null record) := by
  show Program.bind (w.withKey (w.withoutRelations record)) _ = _
  rw [withKey_eq]
  split <;> rfl

theorem get?_keyed (key : Value) (row : Row) (c : String) : (w.keyed key row).get? c =
    if c = w.selection.table.primaryKey then
      if (row.getD c).isNull then (if key.isNull then none else some key) else row.get? c
    else row.get? c := by
  unfold keyed
  by_cases hc : c = w.selection.table.primaryKey
  · subst hc
    rw [if_pos rfl]
    dsimp only
    split
    · split
      · rw [Row.get?_erase, if_pos rfl]
      · rw [Row.get?_put, if_pos rfl]
    · rfl
  · rw [if_neg hc]
    dsimp only
    split
    · split
      · rw [Row.get?_erase, if_neg hc]
      · rw [Row.get?_put, if_neg hc]
    · rfl

/-- What an inserted row holds: the steps on the way to it do not get in each other's way. -/
theorem get?_completed (h : w.selection.table.NamesApart) (now : Instant) (key : Value) (record : Row) (c : String) :
    (w.completed now key record).get? c = w.insertedValue? now key record c := by
  unfold completed insertedValue?
  dsimp only
  rw [get?_apply, get?_without, get?_stamped]
  by_cases hpk : c = w.selection.table.primaryKey
  · obtain ⟨hcreated, hupdated, hdelete, hrelation⟩ := h.primaryKey
    subst hpk
    simp [get?_stamped, get?_keyed, get?_withoutRelations, Row.getD, hcreated, hupdated, hdelete, hrelation]
    rfl
  by_cases hcreated : w.selection.table.createdAt = some c
  · obtain ⟨hupdated, hdelete, hrelation⟩ := h.createdAt hcreated
    simp [get?_stamped, get?_keyed, get?_withoutRelations, Row.getD, hpk, hcreated, hupdated, hdelete, hrelation]
    rfl
  by_cases hupdated : w.selection.table.updatedAt = some c
  · obtain ⟨hdelete, hrelation⟩ := h.updatedAt hupdated
    simp [get?_stamped, get?_keyed, get?_withoutRelations, Row.getD, hpk, hcreated, hupdated, hdelete, hrelation]
    rfl
  · have hkeep : ([some w.selection.table.primaryKey, w.selection.table.createdAt,
        w.selection.table.updatedAt].filterMap id).contains c = false := by
      simp [hpk, Ne.symm hcreated, Ne.symm hupdated]
    rw [get?_stamped, get?_keyed, get?_withoutRelations, hkeep, if_neg hcreated, if_neg hupdated, if_neg hpk,
      if_neg hpk, if_neg (not_or.mpr ⟨hcreated, hupdated⟩), Bool.false_or]
    by_cases hdelete : w.selection.table.softDelete = some c
    · simp [hdelete]
    · cases w.selection.table.isRelation c <;> simp [hdelete]

theorem nodup_completed (now : Instant) (key : Value) (h : record.columns.Nodup) :
    (w.completed now key record).columns.Nodup := by
  have hstamped : ∀ {row : Row} {column : Option String}, row.columns.Nodup →
      (stamped now row column).columns.Nodup := by
    intro row column hrow
    cases column with
    | none => exact hrow
    | some column =>
      rw [stamped]
      split
      · exact Row.nodup_put hrow
      · exact hrow
  have hkeyed : ∀ {row : Row}, row.columns.Nodup → (w.keyed key row).columns.Nodup := by
    intro row hrow
    unfold keyed
    dsimp only
    split
    · split
      · exact hrow.sublist (List.filter_sublist.map Prod.fst)
      · exact Row.nodup_put hrow
    · exact hrow
  have hrelations : (w.withoutRelations record).columns.Nodup :=
    h.sublist ((w.sublist_withoutRelations record).map Prod.fst)
  exact (hstamped (hstamped (hkeyed hrelations))).sublist
    ((List.filter_sublist.trans (sublist_without _ _)).map Prod.fst)

/-- The key that the generator gave for a record when a creation began, null if it was not asked. -/
def Generated (w : Writer) (record : Row) (past : List Exchange) (key : Value) : Prop :=
  if w.drawsKey record then past.head? = some (.drawn key) else key = .null

theorem Generated.append {past : List Exchange} (h : w.Generated record past key) (more : List Exchange) :
    w.Generated record (past ++ more) key := by
  unfold Generated at h ⊢
  split at h
  · rw [if_pos ‹_›, List.head?_append, h]
    rfl
  · rwa [if_neg ‹_›]

theorem drawsKey_withoutRelations (h : w.selection.table.NamesApart) (record : Row) :
    w.drawsKey (w.withoutRelations record) = w.drawsKey record := by
  unfold drawsKey Row.getD
  rw [get?_withoutRelations, h.primaryKey.2.2.2, if_neg Bool.false_ne_true]

theorem along_insertedRow (h : w.selection.table.NamesApart) (now : Instant) (record : Row)
    {asked : List Exchange → Request → Prop} : (w.insertedRow now (.dict record)).Along asked
      (fun past row => ∃ key, w.Generated record past key ∧ row = w.completed now key record) [] := by
  rw [insertedRow_dict, drawsKey_withoutRelations h]
  unfold Generated
  cases hdraw : w.drawsKey record with
  | true => exact fun key => ⟨key, by rw [if_pos rfl]; rfl, rfl⟩
  | false => exact ⟨.null, by rw [if_neg Bool.false_ne_true], rfl⟩

end

/-! ### The columns of an update -/

/-- The part of a record that an update may write. -/
def updatable (w : Writer) (record : Row) : Row :=
  w.columns.apply (without ((w.withoutRelations record).erase w.selection.table.primaryKey)
    w.selection.table.createdAt) []

section
variable {w : Writer} {now : Instant} {row record : Row}

theorem get?_updatable (w : Writer) (record : Row) (c : String) :
    (w.updatable record).get? c = if w.mayUpdate c then record.get? c else none := by
  unfold updatable mayUpdate
  rw [get?_apply, get?_without, Row.get?_erase, get?_withoutRelations]
  by_cases hpk : c = w.selection.table.primaryKey
  · simp [hpk]
  by_cases hcreated : w.selection.table.createdAt = some c
  · simp [hcreated]
  · cases w.selection.table.isRelation c <;> simp [hpk, hcreated]

theorem isEmpty_updatable (w : Writer) (record : Row) :
    (w.updatable record).isEmpty = !record.columns.any w.mayUpdate := by
  rw [Bool.eq_iff_iff, List.isEmpty_iff, Row.eq_nil_iff_get?, Bool.not_eq_true', List.any_eq_false]
  constructor
  · intro h c hc hmay
    obtain ⟨v, hv⟩ := Row.mem_columns_iff.mp hc
    have hnone := h c
    rw [get?_updatable, if_pos hmay, hv] at hnone
    cases hnone
  · intro h c
    rw [get?_updatable]
    split
    · rename_i hmay
      exact Row.get?_eq_none fun hc => h c hc hmay
    · rfl

theorem updatedColumns_dict (w : Writer) (now : Instant) (record : Row) : w.updatedColumns now (.dict record) =
    .ok (if (w.updatable record).isEmpty then w.updatable record else match w.selection.table.updatedAt with
      | some c => (w.updatable record).put c (.instant now)
      | none => w.updatable record) := by
  show (if (w.updatable record).isEmpty then Except.ok (w.updatable record) else
    match w.selection.table.updatedAt with
    | some c => .ok ((w.updatable record).put c (.instant now))
    | none => .ok (w.updatable record)) = _
  split
  · rfl
  · split <;> rfl

/-- What an update writes. -/
theorem get?_updatedColumns (hrow : w.updatedColumns now (.dict record) = .ok row) (c : String) :
    row.get? c = w.updatedValue? now record c := by
  rw [updatedColumns_dict, Except.ok.injEq] at hrow
  rw [← hrow, updatedValue?]
  have hempty : (w.updatable record).isEmpty = !record.columns.any w.mayUpdate := w.isEmpty_updatable record
  cases hany : record.columns.any w.mayUpdate with
  | false =>
    rw [hany] at hempty
    have hnone := Row.eq_nil_iff_get?.mp (List.isEmpty_iff.mp hempty) c
    rw [hempty, Bool.not_false, if_pos rfl, if_neg Bool.false_ne_true, hnone, ← get?_updatable, hnone, ite_self]
  | true =>
    rw [hany] at hempty
    rw [hempty, Bool.not_true, if_neg Bool.false_ne_true, if_pos rfl]
    cases hupdated : w.selection.table.updatedAt with
    | none => exact w.get?_updatable record c
    | some column =>
      dsimp only
      rw [Row.get?_put, get?_updatable]
      by_cases hc : c = column
      · rw [if_pos hc, if_pos (congrArg some hc.symm)]
      · rw [if_neg hc, if_neg fun h => hc (Option.some_inj.mp h).symm]

end

/-! ### Statements that write a record -/

/-- A statement that inserts the columns of a record: none of them twice, and each with the value that belongs to
    it. -/
def InsertsRecord (w : Writer) (now : Instant) (key : Value) (record : Row) (st : Statement) : Prop :=
  ∃ row ending, st = { w.insertion row with sql := (w.insertion row).sql ++ ending } ∧ row.columns.Nodup ∧
    (∀ c, row.get? c = w.insertedValue? now key record c) ∧
    (w.selection.dialect ≠ .generic → st.Inserts w.selection.dialect w.selection.table.name row)

/-- A statement that writes the columns of a record in the rows of a predicate, in the same way. -/
def UpdatesRecord (w : Writer) (now : Instant) (record : Row) (p : Predicate) (st : Statement) : Prop :=
  ∃ row, st = w.updating row p ∧ row.columns.Nodup ∧ (∀ c, row.get? c = w.updatedValue? now record c) ∧
    (w.selection.dialect ≠ .generic → st.Updates w.selection.dialect w.selection.table.name row)

section
variable {w : Writer} {record : Row} {now : Instant} {timeout : Value}

theorem insertsRecord_completed (h : w.selection.table.NamesApart) (hrecord : record.columns.Nodup) (now : Instant)
    (key : Value) (ending : String) : w.InsertsRecord now key record
      { w.insertion (w.completed now key record) with
        sql := (w.insertion (w.completed now key record)).sql ++ ending } :=
  ⟨_, ending, rfl, nodup_completed now key hrecord, get?_completed h now key record,
    fun hd => inserts_insertion hd _ ending⟩

theorem updatesRecord_updatedColumns {row : Row} (hrecord : record.columns.Nodup)
    (hrow : w.updatedColumns now (.dict record) = .ok row) (p : Predicate) :
    w.UpdatesRecord now record p (w.updating row p) :=
  ⟨row, rfl, nodup_updatedColumns hrecord hrow, get?_updatedColumns hrow, updates_updating⟩

theorem along_create_insertsRecord (h : w.selection.table.NamesApart) (hrecord : record.columns.Nodup)
    (now : Instant) (timeout : Value) :
    (w.create now (.dict record) timeout).Along (fun past r => ∀ returning, r.kind = .write returning →
      ∃ key, w.Generated record past key ∧ w.InsertsRecord now key record r.statement) (fun _ _ => True) [] := by
  refine along_create_of (along_insertedRow h now record) ?_ ?_ ?_ ?_ ?_
  · intro past more r hr returning hkind
    obtain ⟨key, hkey, hst⟩ := hr returning hkind
    exact ⟨key, hkey.append more, hst⟩
  -- Probes and what is read back are no writes.
  · exact fun _ _ _ _ _ hkind => nomatch hkind
  · rintro past _ ⟨key, hkey, rfl⟩ more returning -
    exact ⟨key, hkey.append more, insertsRecord_completed h hrecord now key " RETURNING *"⟩
  · rintro past _ ⟨key, hkey, rfl⟩ more returning -
    refine ⟨key, hkey.append more, ?_⟩
    have hst := insertsRecord_completed h hrecord now key ""
    rwa [String.append_empty] at hst
  · exact fun past row result _ => Selection.always_find (fun _ _ _ _ _ hkind => nomatch hkind)
      fun _ _ _ _ _ hkind => nomatch hkind

theorem always_update_updatesRecord (hrecord : record.columns.Nodup) (now : Instant) (timeout : Value) :
    (w.update now (.dict record) timeout).Always (fun r => ∀ returning, r.kind = .write returning →
      ∃ p, w.UpdatesRecord now record p r.statement) fun _ => True := by
  refine always_update ?_ ?_ ?_
  · exact fun _ _ _ _ _ _ hkind => nomatch hkind
  · exact fun _ _ _ hkind => nomatch hkind
  · exact fun row p _ _ _ hrow _ _ _ => ⟨p, updatesRecord_updatedColumns hrecord hrow p⟩

theorem always_updateById_updatesRecord (hrecord : record.columns.Nodup) (now : Instant) (id timeout : Value) :
    (w.updateById now id (.dict record) timeout).Always (fun r => ∀ returning, r.kind = .write returning →
      ∃ p, w.UpdatesRecord now record p r.statement) fun _ => True := by
  refine always_updateById ?_ ?_ ?_ ?_
  · exact fun _ _ _ _ _ hkind => nomatch hkind
  · exact fun _ _ _ _ _ hkind => nomatch hkind
  · exact fun _ row p _ _ hrow _ _ => ⟨p, updatesRecord_updatedColumns hrecord hrow p⟩
  · exact Selection.always_find (fun _ _ _ _ _ hkind => nomatch hkind) fun _ _ _ _ _ hkind => nomatch hkind

/-- Whatever key the generator may give, the row with it is inserted. -/
theorem canAsk_insertsRecord (h : w.selection.table.NamesApart) (hrecord : record.columns.Nodup) {key : Value}
    (hkey : w.drawsKey record = false → key = .null) {c : String}
    (hc : (w.insertedValue? now key record c).isSome = true) :
    ∃ returning st, w.InsertsRecord now key record st ∧ (w.create now (.dict record) timeout).CanAsk
      ⟨.write returning, st, w.selection.callTimeout timeout⟩ := by
  have hrow : (w.insertedRow now (.dict record)).CanEnd (w.completed now key record) := by
    rw [insertedRow_dict, drawsKey_withoutRelations h]
    cases hdraw : w.drawsKey record with
    | true => exact ⟨key, rfl⟩
    | false =>
      rw [hkey hdraw]
      exact rfl
  have hfull : (w.completed now key record).isEmpty = false := by
    rw [List.isEmpty_eq_false_iff]
    intro hnil
    rw [← get?_completed h, Row.eq_nil_iff_get?.mp hnil c] at hc
    cases hc
  obtain ⟨returning, ending, hask⟩ := @canAsk_create w now (.dict record) timeout _ hrow hfull
  exact ⟨returning, _, insertsRecord_completed h hrecord now key ending, hask⟩

theorem exists_updatedColumns {c : String} (hc : (w.updatedValue? now record c).isSome = true) :
    ∃ row, w.updatedColumns now (.dict record) = .ok row ∧ row.isEmpty = false := by
  refine ⟨_, w.updatedColumns_dict now record, ?_⟩
  rw [List.isEmpty_eq_false_iff]
  intro hnil
  rw [← get?_updatedColumns (w.updatedColumns_dict now record), Row.eq_nil_iff_get?.mp hnil c] at hc
  cases hc

end

/-- What is written for a record, column by column. An insertion has the columns of the record that the policy allows
    and that are neither relations nor the stamp of deletion, the key and the times whatever the policy says, a key
    that was generated where the record has none, and the current time where it has no time. An update has the
    allowed columns apart from relations, the key and the time of creation, and the current time if there are any.
    No column occurs twice; and where there is something to write, the statement is made. -/
theorem columns_written {w : Writer} (h : w.selection.table.NamesApart) {record : Row} (hrecord : record.columns.Nodup)
    (now : Instant) (timeout : Value) :
    (w.create now (.dict record) timeout).Along (fun past r => ∀ returning, r.kind = .write returning →
      ∃ key, w.Generated record past key ∧ w.InsertsRecord now key record r.statement) (fun _ _ => True) [] ∧
    (∀ key c, (w.drawsKey record = false → key = .null) → (w.insertedValue? now key record c).isSome = true →
      ∃ returning st, w.InsertsRecord now key record st ∧ (w.create now (.dict record) timeout).CanAsk
        ⟨.write returning, st, w.selection.callTimeout timeout⟩) ∧
    (w.update now (.dict record) timeout).Always (fun r => ∀ returning, r.kind = .write returning →
      ∃ p, w.UpdatesRecord now record p r.statement) (fun _ => True) ∧
    (∀ p c, Compiler.validate w.selection.query = .ok () →
      w.selection.checkRestricted (.unrestrictedUpdate w.selection.table.name) = .ok () →
      w.selection.predicate w.selection.query = .ok p → (w.updatedValue? now record c).isSome = true →
      ∃ st, w.UpdatesRecord now record p st ∧ (w.update now (.dict record) timeout).CanAsk
        ⟨.write false, st, w.selection.callTimeout timeout⟩) ∧
    (∀ id, (w.updateById now id (.dict record) timeout).Always (fun r => ∀ returning, r.kind = .write returning →
      ∃ p, w.UpdatesRecord now record p r.statement) fun _ => True) ∧
    ∀ id q p c, w.selection.queryById id = .ok q → Compiler.validate q = .ok () → w.selection.predicate q = .ok p →
      (w.updatedValue? now record c).isSome = true →
      ∃ st, w.UpdatesRecord now record p st ∧ (w.updateById now id (.dict record) timeout).CanAsk
        ⟨.write false, st, w.selection.callTimeout timeout⟩ := by
  refine ⟨along_create_insertsRecord h hrecord now timeout, fun key c hkey hc => canAsk_insertsRecord h hrecord hkey hc,
    always_update_updatesRecord hrecord now timeout, fun p c hvalid hcheck hp hc => ?_,
    fun id => always_updateById_updatesRecord hrecord now id timeout, fun id q p c hq hvalid hp hc => ?_⟩
  · obtain ⟨row, hrow, hfull⟩ := exists_updatedColumns hc
    exact ⟨_, updatesRecord_updatedColumns hrecord hrow p, canAsk_update hvalid hcheck hp hrow hfull⟩
  · obtain ⟨row, hrow, hfull⟩ := exists_updatedColumns hc
    exact ⟨_, updatesRecord_updatedColumns hrecord hrow p, canAsk_updateById hq hvalid hp hrow hfull⟩

/-- A record with a relation and a stamp, of which a policy allows the name alone: the key that is drawn and the times
    are written all the same, the time that the record gives is kept, and nothing else is. -/
theorem columns_written_members :
    let members : Table := ⟨"members", "id", true, some "made", some "changed", some "gone",
      [(⟨"posts", "id", "member", true⟩, ⟨"posts", "id", false, none, none, none, []⟩)]⟩
    let w : Writer := ⟨Selection.all .sqlite members .standard, ⟨["name", "gone", "posts"], []⟩, []⟩
    let now : Instant := ⟨⟨2024, 1, 1⟩, ⟨0, 0, 0, 0, none⟩⟩
    let record : Row := [("posts", .null), ("name", .text "a"), ("rank", .int 1), ("gone", .int 2), ("made", .int 3)]
    (w.selection.table.NamesApart ∧ record.columns.Nodup) ∧
    ∃ returning st, (w.create now (.dict record) .null).CanAsk ⟨.write returning, st, .null⟩ ∧
      w.InsertsRecord now (.int 7) record st ∧
      ["posts", "name", "rank", "gone", "made", "changed", "id"].map (w.insertedValue? now (.int 7) record) =
        [none, some (.text "a"), none, none, some (.int 3), some (.instant now), some (.int 7)] := by
  intro members w now record
  have hnames : w.selection.table.NamesApart := by decide
  have hrecord : record.columns.Nodup := by decide
  obtain ⟨returning, st, hst, hask⟩ := (columns_written (w := w) hnames hrecord now .null).2.1 (.int 7) "name"
    (fun hdraw => nomatch hdraw) rfl
  exact ⟨⟨hnames, hrecord⟩, returning, st, hask, hst, rfl⟩

end Writer
end TableQuery
