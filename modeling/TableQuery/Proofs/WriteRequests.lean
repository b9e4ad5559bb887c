import TableQuery.Proofs.Histories
import TableQuery.Proofs.Operations
import TableQuery.Proofs.ReadRequests

/-! What the operations that write ask: probes of the uniqueness rules, counts and readings of the rows that
    are meant, at most one statement that changes rows, and readings of what was written. -/

namespace TableQuery
open Program

theorem Uniqueness.always_checkEach {u : Uniqueness} {id : Value} {excluded : Predicate} {timeout : Value}
    {asked : Request → Prop} : ∀ {checks : List (UniqueRule × List (String × Value))},
    (∀ check ∈ checks, asked ⟨.value, u.probe check.2 id excluded, timeout⟩) →
      (u.checkEach id excluded timeout checks).Always asked fun _ => True
  | [], _ => trivial
  | (rule, pairs) :: rest, h => by
    obtain ⟨hprobe, hrest⟩ := List.forall_mem_cons.mp h
    refine always_bind.mpr (always_fetchValue.mpr ⟨hprobe, fun v => always_lift_bind.mpr fun n _ => ?_⟩)
    split
    · exact trivial
    · exact always_checkEach hrest

theorem Uniqueness.always_check {u : Uniqueness} {record id : Value} {excluded : Predicate} {timeout : Value}
    {asked : Request → Prop}
    (h : ∀ check ∈ u.enforced record, asked ⟨.value, u.probe check.2 id excluded, timeout⟩) :
    (u.check record id excluded timeout).Always asked fun _ => True := always_checkEach h

/-! ### Deletion -/

namespace Selection
variable {s : Selection} {now : Instant} {timeout : Value} {asked : Request → Prop}

theorem always_runDeletion {p : Predicate} (h : asked ⟨.write false, s.deletion now p, timeout⟩) :
    (s.runDeletion now p timeout).Always asked fun _ => True :=
  always_bind.mpr (always_write.mpr ⟨h, fun _ => trivial⟩)

theorem always_delete
    (hwrite : ∀ p, Compiler.validate s.query = .ok () →
      s.checkRestricted (.unrestrictedDelete s.table.name) = .ok () → s.predicate s.query = .ok p →
      asked ⟨.write false, s.deletion now p, s.callTimeout timeout⟩) :
    (s.delete now timeout).Always asked fun _ => True :=
  always_lift_bind.mpr fun _ hvalid => always_lift_bind.mpr fun _ hguard => always_lift_bind.mpr fun p hp =>
    always_runDeletion (hwrite p hvalid hguard hp)

theorem callTimeout_of_null (h : s.timeout = .null) : s.callTimeout timeout = timeout := by
  unfold callTimeout
  cases timeout with
  | null => exact h
  | _ => rfl

theorem always_deleteById {id : Value} {extra : Option Query}
    (hcount : ∀ (q : Query) (statement : Select), s.deletionQuery id extra = .ok q → s.Reads q statement →
      asked ⟨.value, statement.count s.dialect, s.callTimeout timeout⟩)
    (hwrite : ∀ q p, s.deletionQuery id extra = .ok q → s.predicate q = .ok p →
      asked ⟨.write false, s.deletion now p, s.callTimeout timeout⟩) :
    (s.deleteById now id extra timeout).Always asked fun _ => True := by
  refine always_lift_bind.mpr fun q hq => always_lift_bind.mpr fun _ _ => always_lift_bind.mpr fun p hp => ?_
  replace hq := mapError_eq_ok.mp hq
  refine (always_exist (s := { s with query := q, model := none, timeout := .null })
    fun statement h => ?_).bind fun found => ?_
  · rw [callTimeout_of_null rfl]
    exact hcount q statement hq ⟨h.table, h.restriction⟩
  split
  · exact always_runDeletion (hwrite q p hq hp)
  · exact trivial

end Selection

/-! ### Updates -/

namespace Writer
variable {w : Writer} {now : Instant} {record timeout : Value} {asked : Request → Prop}

theorem always_checkTargets {row : Row} {restriction : Predicate}
    (hprobe : ∀ check ∈ w.uniqueness.enforced (.dict row),
      asked ⟨.value, w.uniqueness.probe check.2 .null restriction, timeout⟩)
    (hcount : asked ⟨.value, w.counting restriction, timeout⟩) :
    (w.checkTargets row restriction timeout).Always asked fun _ => True := by
  unfold checkTargets
  split
  · exact trivial
  · refine (Uniqueness.always_check hprobe).bind fun _ => ?_
    refine always_bind.mpr (always_fetchValue.mpr ⟨hcount, fun v => always_lift_bind.mpr fun n _ => ?_⟩)
    split <;> exact trivial

theorem always_runUpdate {row : Row} {restriction : Predicate}
    (h : asked ⟨.write false, w.updating row restriction, timeout⟩) :
    (w.runUpdate row restriction timeout).Always asked fun _ => True :=
  always_bind.mpr (always_write.mpr ⟨h, fun _ => trivial⟩)

/-- What an update of a whole selection asks, once the selection is checked and there is something to
    write. -/
theorem always_update
    (hprobe : ∀ row restriction, w.selection.predicate w.selection.query = .ok restriction →
      ∀ check ∈ w.uniqueness.enforced (.dict row),
        asked ⟨.value, w.uniqueness.probe check.2 .null restriction, w.selection.callTimeout timeout⟩)
    (hcount : ∀ restriction, w.selection.predicate w.selection.query = .ok restriction →
      asked ⟨.value, w.counting restriction, w.selection.callTimeout timeout⟩)
    (hwrite : ∀ row restriction, Compiler.validate w.selection.query = .ok () →
      w.selection.checkRestricted (.unrestrictedUpdate w.selection.table.name) = .ok () →
      w.selection.predicate w.selection.query = .ok restriction → w.updatedColumns now record = .ok row →
      row.isEmpty = false → asked ⟨.write false, w.updating row restriction, w.selection.callTimeout timeout⟩) :
    (w.update now record timeout).Always asked fun _ => True := by
  refine always_lift_bind.mpr fun _ hvalid => always_lift_bind.mpr fun _ hguard => ?_
  refine always_lift_bind.mpr fun row hrow => ?_
  split
  · exact trivial
  · rename_i hfull
    refine always_lift_bind.mpr fun restriction hp => ?_
    refine (always_checkTargets (hprobe row restriction hp) (hcount restriction hp)).bind fun _ => ?_
    exact always_runUpdate (hwrite row restriction hvalid hguard hp hrow (Bool.eq_false_iff.mpr hfull))

/-- What an update by key asks. What is read back is read by the key alone. -/
theorem always_updateById {id : Value}
    (hcurrent : ∀ q restriction, w.selection.queryById id = .ok q → w.selection.predicate q = .ok restriction →
      asked ⟨.rows, w.probing restriction, w.selection.callTimeout timeout⟩)
    (hprobe : ∀ row current, ∀ check ∈ (w.uniqueness.touchedBy (.dict row)).enforced (.dict (overlay current row)),
      asked ⟨.value, (w.uniqueness.touchedBy (.dict row)).probe check.2 id .none,
        w.selection.callTimeout timeout⟩)
    (hwrite : ∀ q row restriction, w.selection.queryById id = .ok q →
      w.selection.predicate q = .ok restriction → w.updatedColumns now record = .ok row →
      asked ⟨.write false, w.updating row restriction, w.selection.callTimeout timeout⟩)
    (hfind : (w.reader.find id (w.selection.callTimeout timeout)).Always asked fun _ => True) :
    (w.updateById now id record timeout).Always asked fun _ => True := by
  refine always_lift_bind.mpr fun q hq => always_lift_bind.mpr fun _ _ => ?_
  refine always_lift_bind.mpr fun restriction hp => ?_
  replace hq := mapError_eq_ok.mp hq
  refine always_bind.mpr (always_fetchRow?.mpr ⟨hcurrent q restriction hq hp, fun rows => ?_⟩)
  cases rows.head? with
  | none => exact trivial
  | some current =>
    refine always_lift_bind.mpr fun row hrow => ?_
    split
    · exact hfind
    · refine (Uniqueness.always_check (hprobe row current)).bind fun _ => ?_
      exact (always_runUpdate (hwrite q row restriction hq hp hrow)).bind fun _ => hfind

/-! ### Creation -/

/-- Giving a row its key draws one key at most. -/
theorem withKey_cases (w : Writer) (row : Row) :
    (∃ keyed, w.withKey row = .done keyed) ∨ ∃ keyed : Value → Row, w.withKey row = .draw fun key => .done (keyed key) := by
  unfold withKey Table.newKey
  dsimp only
  split
  · split
    · exact .inr ⟨_, rfl⟩
    · exact .inl ⟨_, rfl⟩
  · exact .inl ⟨_, rfl⟩

theorem always_withKey {row : Row} : (w.withKey row).Always asked fun _ => True := by
  rcases w.withKey_cases row with ⟨keyed, h⟩ | ⟨keyed, h⟩
  · rw [h]
    exact trivial
  · rw [h]
    exact fun key => trivial

theorem always_insertedRow : (w.insertedRow now record).Always asked fun _ => True := by
  refine always_lift_bind.mpr fun given _ => ?_
  refine always_withKey.bind fun row => ?_
  exact trivial

/-- What a creation asks: the probes, the insertion, and the reading back of the row that was inserted. -/
theorem always_create
    (hprobe : ∀ row : Row, ∀ check ∈ w.uniqueness.enforced (.dict row),
      asked ⟨.value, w.uniqueness.probe check.2 .null .none, w.selection.callTimeout timeout⟩)
    (hreturning : ∀ row, (w.insertedRow now record).CanEnd row → w.selection.dialect.supportsReturning = true →
      asked ⟨.write true, { w.insertion row with sql := (w.insertion row).sql ++ " RETURNING *" },
        w.selection.callTimeout timeout⟩)
    (hinsert : ∀ row, (w.insertedRow now record).CanEnd row →
      asked ⟨.write false, w.insertion row, w.selection.callTimeout timeout⟩)
    (hfind : ∀ id : Value,
      (w.reader.unscoped.find id (w.selection.callTimeout timeout)).Always asked fun _ => True) :
    (w.create now record timeout).Always asked fun _ => True := by
  refine always_bind.mpr (always_insertedRow.canEnd.mono (fun _ h => h) fun row ⟨_, hrow⟩ => ?_)
  split
  · exact trivial
  · refine (Uniqueness.always_check (hprobe row)).bind fun _ => ?_
    dsimp only
    split
    · rename_i hr
      exact always_bind.mpr (always_write.mpr ⟨hreturning row hrow hr, fun _ => always_lift.mpr fun _ _ => trivial⟩)
    · exact always_bind.mpr (always_write.mpr ⟨hinsert row hrow, fun result => hfind _⟩)

/-- What a creation asks in view of its past, which holds the answer to the insertion when the row is read back.
    What is known of the row when it is complete is known from then on. -/
theorem along_create_of {asked : List Exchange → Request → Prop} {Given : List Exchange → Row → Prop}
    {past : List Exchange}
    (hgiven : (w.insertedRow now record).Along asked Given past)
    (hgrow : ∀ past more r, asked past r → asked (past ++ more) r)
    (hprobe : ∀ (past : List Exchange) (row : Row), ∀ check ∈ w.uniqueness.enforced (.dict row),
      asked past ⟨.value, w.uniqueness.probe check.2 .null .none, w.selection.callTimeout timeout⟩)
    (hreturning : ∀ (past : List Exchange) (row : Row), Given past row → ∀ more, asked (past ++ more)
      ⟨.write true, { w.insertion row with sql := (w.insertion row).sql ++ " RETURNING *" }, w.selection.callTimeout timeout⟩)
    (hinsert : ∀ (past : List Exchange) (row : Row), Given past row → ∀ more,
      asked (past ++ more) ⟨.write false, w.insertion row, w.selection.callTimeout timeout⟩)
    (hfind : ∀ (past : List Exchange) (row : Row) (result : WriteResult),
      .answered ⟨.write false, w.insertion row, w.selection.callTimeout timeout⟩ result ∈ past →
      (w.reader.unscoped.find ((row.get? w.selection.table.primaryKey).getD result.lastRowId)
        (w.selection.callTimeout timeout)).Always (asked past) fun _ => True) :
    (w.create now record timeout).Along asked (fun _ _ => True) past := by
  refine along_bind.mpr (hgiven.mono fun past row hrow => ?_)
  split
  · exact trivial
  have hcheck : (w.uniqueness.check (.dict row) .null .none (w.selection.callTimeout timeout)).Always (asked past)
      fun _ => True := Uniqueness.always_check (hprobe past row)
  refine hcheck.along_bind (hgrow past) fun now' _ hpast _ => ?_
  obtain ⟨more, rfl⟩ := hpast
  dsimp only
  split
  · exact ⟨hreturning past row hrow more, fun result => along_lift.mpr fun _ _ => trivial⟩
  · refine ⟨hinsert past row hrow more, fun result => (hfind _ row result ?_).along_of_append (hgrow _)⟩
    exact List.mem_append_right _ (List.mem_singleton_self _)

theorem along_create {asked : List Exchange → Request → Prop} {past : List Exchange}
    (hgrow : ∀ past more r, asked past r → asked (past ++ more) r)
    (hprobe : ∀ (past : List Exchange) (row : Row), ∀ check ∈ w.uniqueness.enforced (.dict row),
      asked past ⟨.value, w.uniqueness.probe check.2 .null .none, w.selection.callTimeout timeout⟩)
    (hreturning : ∀ (past : List Exchange) (row : Row), asked past
      ⟨.write true, { w.insertion row with sql := (w.insertion row).sql ++ " RETURNING *" }, w.selection.callTimeout timeout⟩)
    (hinsert : ∀ (past : List Exchange) (row : Row),
      asked past ⟨.write false, w.insertion row, w.selection.callTimeout timeout⟩)
    (hfind : ∀ (past : List Exchange) (row : Row) (result : WriteResult),
      .answered ⟨.write false, w.insertion row, w.selection.callTimeout timeout⟩ result ∈ past →
      (w.reader.unscoped.find ((row.get? w.selection.table.primaryKey).getD result.lastRowId)
        (w.selection.callTimeout timeout)).Always (asked past) fun _ => True) :
    (w.create now record timeout).Along asked (fun _ _ => True) past := by
  have hnothing : (w.insertedRow now record).Always (fun _ => False) fun _ => True := always_insertedRow
  have hgiven : (w.insertedRow now record).Along asked (fun _ _ => True) past :=
    (hnothing.along_past fun _ _ h => h.elim).mono fun _ _ _ => trivial
  refine along_create_of hgiven hgrow hprobe ?_ ?_ hfind
  · exact fun past row _ more => hreturning (past ++ more) row
  · exact fun past row _ more => hinsert (past ++ more) row

end Writer

/-! ### What can be asked -/

/-- The check of rules passes where no row holds the values. -/
theorem Uniqueness.canEnd_checkEach {u : Uniqueness} {id : Value} {excluded : Predicate} {timeout : Value} :
    ∀ checks : List (UniqueRule × List (String × Value)), (u.checkEach id excluded timeout checks).CanEnd ()
  | [] => rfl
  | _ :: rest => ⟨.int 0, canEnd_checkEach rest⟩

theorem Writer.canEnd_checkTargets {w : Writer} {row : Row} {restriction : Predicate} {timeout : Value} :
    (w.checkTargets row restriction timeout).CanEnd () := by
  unfold checkTargets
  split
  · exact rfl
  · refine canEnd_bind ?_ (Uniqueness.canEnd_checkEach _)
    exact ⟨.int 0, rfl⟩

namespace Writer
variable {w : Writer} {now : Instant} {record timeout : Value} {row : Row}

/-- Any row that a creation can come to is inserted, unless it is empty or a rule is in its way. -/
theorem canAsk_create (hrow : (w.insertedRow now record).CanEnd row) (hfull : row.isEmpty = false) :
    ∃ returning ending, (w.create now record timeout).CanAsk ⟨.write returning,
      { w.insertion row with sql := (w.insertion row).sql ++ ending }, w.selection.callTimeout timeout⟩ := by
  have hcheck : (w.uniqueness.check (.dict row) .null .none (w.selection.callTimeout timeout)).CanEnd () :=
    Uniqueness.canEnd_checkEach _
  cases hr : w.selection.dialect.supportsReturning with
  | true =>
    refine ⟨true, " RETURNING *", canAsk_bind ?_ hrow⟩
    rw [hfull]
    refine canAsk_bind ?_ hcheck
    dsimp only
    rw [hr]
    exact .inl rfl
  | false =>
    refine ⟨false, "", canAsk_bind ?_ hrow⟩
    rw [hfull, String.append_empty]
    refine canAsk_bind ?_ hcheck
    dsimp only
    rw [hr]
    exact .inl rfl

theorem canAsk_update {p : Predicate} (hvalid : Compiler.validate w.selection.query = .ok ())
    (hcheck : w.selection.checkRestricted (.unrestrictedUpdate w.selection.table.name) = .ok ())
    (hp : w.selection.predicate w.selection.query = .ok p) (hrow : w.updatedColumns now record = .ok row)
    (hfull : row.isEmpty = false) : (w.update now record timeout).CanAsk
      ⟨.write false, w.updating row p, w.selection.callTimeout timeout⟩ := by
  refine canAsk_bind (a := ()) ?_ (canEnd_lift hvalid)
  refine canAsk_bind (a := ()) ?_ (canEnd_lift hcheck)
  refine canAsk_bind (a := row) ?_ (canEnd_lift hrow)
  rw [hfull]
  refine canAsk_bind (a := p) ?_ (canEnd_lift hp)
  refine canAsk_bind (a := ()) ?_ canEnd_checkTargets
  exact Or.inl rfl

theorem canAsk_updateById {id : Value} {q : Query} {p : Predicate} (hq : w.selection.queryById id = .ok q)
    (hvalid : Compiler.validate q = .ok ()) (hp : w.selection.predicate q = .ok p)
    (hrow : w.updatedColumns now record = .ok row) (hfull : row.isEmpty = false) :
    (w.updateById now id record timeout).CanAsk
      ⟨.write false, w.updating row p, w.selection.callTimeout timeout⟩ := by
  refine canAsk_bind (a := q) ?_ (canEnd_lift (mapError_eq_ok.mpr hq))
  refine canAsk_bind (a := ()) ?_ (canEnd_lift hvalid)
  refine canAsk_bind (a := p) ?_ (canEnd_lift hp)
  refine canAsk_bind (a := some []) ?_ ⟨[[]], rfl⟩
  refine canAsk_bind (a := row) ?_ (canEnd_lift hrow)
  rw [hfull]
  refine canAsk_bind (a := ()) ?_ (Uniqueness.canEnd_checkEach _)
  exact canAsk_bind_left (canAsk_bind_left (.inl rfl))

end Writer
end TableQuery
