import TableQuery.Proofs.ReadFailures
import TableQuery.Proofs.Readiness
import TableQuery.Proofs.WriteRequests

/-! Checks come before changes. An operation that writes first asks all that it has to know, then changes rows by one
    statement, and after that only reads back; a check that fails leaves everything as it was. -/

namespace TableQuery
open Program

/-- A failure by which a check ends an operation: there is no row of the key, or another row holds the values. -/
inductive Writer.CheckFailure (w : Writer) : Failure → Prop
  | noRecord (id : Value) : CheckFailure w (w.selection.noRecord id)
  | duplicate (rule : UniqueRule) (pairs : List (String × Value)) : CheckFailure w (Uniqueness.duplicate rule pairs)

/-- An operation asks what reads, and otherwise what it is ready for. -/
def Operation.AsksInTurn (w : Writer) (op : Operation) (timeout : Value) (past : List Exchange) (r : Request) : Prop :=
  r.Reads ∨ (∃ returning, r.kind = .write returning) ∧ op.Ready w timeout past r.statement

/-- If a check fails, then before anything is changed. -/
def Writer.FailsInTime (w : Writer) (past : List Exchange) (f : Failure) : Prop := w.CheckFailure f → OnlySelects past

/-! ### Failures -/

section
variable {w : Writer} {past : List Exchange} {f : Failure}

theorem OnlySelects.failsInTime (h : OnlySelects past) : w.FailsInTime past f := fun _ => h

theorem OnlySelects.failsOnly {α : Type} (h : OnlySelects past) (r : Outcome α) :
    FailsOnly (w.FailsInTime past) r := by
  cases r with
  | ok a => exact trivial
  | error f => exact h.failsInTime

theorem Failure.Local.failsInTime (h : f.Local) : w.FailsInTime past f := by
  intro hcheck
  cases hcheck with
  | noRecord id => exact absurd rfl (h _ _)
  | duplicate rule pairs => exact absurd rfl (h _ _)

/-- That no row fits is not what a check fails with. -/
theorem Selection.ReadFailure.failsInTime {s : Selection} (h : s.ReadFailure f) : w.FailsInTime past f := by
  rcases h with h | rfl
  · exact h.failsInTime
  · intro hcheck
    -- A missing key names the field of the key, a duplicate is of another kind.
    have hfail : ∀ f, w.CheckFailure f → f ≠ s.noMatch := by
      intro f hf heq
      cases hf with
      | noRecord id => injection heq with hdb; injection hdb with _ _ hfield; cases hfield
      | duplicate rule pairs => injection heq with hdb; injection hdb with hkind; cases hkind
    exact absurd rfl (hfail _ hcheck)

theorem Writer.failsOnly_returnedRow (result : WriteResult) : FailsOnly Failure.Local (w.returnedRow result) := by
  unfold returnedRow
  split
  · exact fun _ _ h => nomatch h
  · refine (Row.failsOnly_decode _ _).bind fun decoded _ => ?_
    split
    · exact trivial
    · exact Row.failsOnly_toEntity _ _ decoded

end

/-! ### Courses -/

namespace Operation
variable {w : Writer} {op : Operation} {timeout limit : Value} {past : List Exchange}

/-- A program that only reads, as far as its course is judged here. -/
theorem course_of_reads {α : Type} {ends : α → Prop} : ∀ {p : Program α} {past : List Exchange},
    p.Always Request.Reads ends → OnlySelects past →
      p.Course (op.AsksInTurn w limit) w.FailsInTime (fun past a => OnlySelects past ∧ ends a) past
  | .done _, _, h, hpast => ⟨hpast, h⟩
  | .fail _, _, _, hpast => hpast.failsInTime
  | .ask _ _, _, h, hpast => ⟨.inl h.1, fun answer => course_of_reads (h.2 answer) (hpast.answered h.1 answer)⟩
  | .draw _, _, h, hpast => fun key => course_of_reads (h key) (hpast.drawn key)

/-- Reading back. -/
theorem course_find {s : Selection} (id : Value) :
    (s.find id timeout).Course (op.AsksInTurn w limit) w.FailsInTime (fun _ _ => True) past :=
  (Selection.always_find (fun _ _ _ _ => Request.reads_rows _) fun _ _ _ _ => Request.reads_preload _ _ _).course
    (fun _ _ h => .inl h) (fun _ _ h => h.failsInTime) (s.failsWith_find id timeout)

theorem course_checkEach {u : Uniqueness} {id : Value} {excluded : Predicate} :
    ∀ {checks : List (UniqueRule × List (String × Value))} {past : List Exchange}, OnlySelects past →
      (u.checkEach id excluded limit checks).Course (op.AsksInTurn w limit) w.FailsInTime
        (fun now _ => ∃ probes, now = past ++ probes ∧ u.Passes id excluded limit checks probes) past
  | [], past, _ => ⟨[], (List.append_nil past).symm, .nil⟩
  | (rule, pairs) :: rest, past, hpast => by
    have hreads : (⟨.value, u.probe pairs id excluded, limit⟩ : Request).Reads :=
      Request.reads_probe u pairs id excluded
    refine course_bind.mpr ⟨.inl hreads, fun v => ?_⟩
    have hnow := hpast.answered hreads v
    refine course_lift_bind (hnow.failsOnly _) fun n hn => ?_
    split
    · exact hnow.failsInTime
    -- The probe that found no row is put in front of those of the other rules.
    · rename_i hpositive
      refine (course_checkEach hnow).mono (fun _ _ h => h) (fun _ _ h => h) fun now _ hrest => ?_
      obtain ⟨probes, rfl, hpasses⟩ := hrest
      exact ⟨_ :: probes, List.append_assoc _ _ _, .cons ⟨v, n, rfl, hn, Int.not_lt.mp hpositive⟩ hpasses⟩

theorem course_checkTargets {row : Row} {p : Predicate} (hpast : OnlySelects past) :
    (w.checkTargets row p limit).Course (op.AsksInTurn w limit) w.FailsInTime
      (fun now _ => ∃ checks, now = past ++ checks ∧ w.Targets row p limit checks) past := by
  unfold Writer.checkTargets
  split
  · rename_i hunruled
    exact ⟨[], (List.append_nil past).symm, .unruled hunruled⟩
  · rename_i rule pairs rest hruled
    refine (course_checkEach hpast).bind fun now _ hchecked => ?_
    obtain ⟨probes, rfl, hpasses⟩ := hchecked
    have hnow := hpast.append hpasses.onlySelects
    have hreads := Request.reads_counting w p limit
    refine course_bind.mpr ⟨.inl hreads, fun v => ?_⟩
    replace hnow := hnow.answered hreads v
    refine course_lift_bind (hnow.failsOnly _) fun n hn => ?_
    split
    · exact hnow.failsInTime
    · rename_i hmany
      refine ⟨_, List.append_assoc _ _ _, .ruled ?_ hpasses hn (Int.not_lt.mp hmany)⟩
      rw [hruled]
      exact List.cons_ne_nil _ _

theorem course_create (now : Instant) (record : Value) :
    (w.create now record timeout).Course (AsksInTurn w (.create now record) (w.selection.callTimeout timeout))
      w.FailsInTime (fun _ _ => True) [] := by
  have hinserted : (w.insertedRow now record).Always Request.Reads
      fun row => True ∧ (w.insertedRow now record).CanEnd row := Writer.always_insertedRow.canEnd
  refine (course_of_reads hinserted onlySelects_nil).bind fun before row ⟨hbefore, _, hrow⟩ => ?_
  split
  · exact hbefore.failsInTime
  rename_i hfull
  refine (course_checkEach hbefore).bind fun past _ hchecked => ?_
  obtain ⟨probes, rfl, hpasses⟩ := hchecked
  have hready {st : Statement} (hst : st = w.insertion row ∨
      st = { w.insertion row with sql := (w.insertion row).sql ++ " RETURNING *" }) :
      Ready w (w.selection.callTimeout timeout) (.create now record) (before ++ probes) st :=
    .create hrow (Bool.eq_false_iff.mpr hfull) hbefore hpasses hst
  dsimp only
  split
  · refine course_bind.mpr ⟨.inr ⟨⟨true, rfl⟩, hready (.inr rfl)⟩, fun result => ?_⟩
    exact course_lift ((w.failsOnly_returnedRow result).mono fun _ h => h.failsInTime) fun _ _ => trivial
  · exact course_bind.mpr ⟨.inr ⟨⟨false, rfl⟩, hready (.inl rfl)⟩, fun result => course_find _⟩

theorem course_update (now : Instant) (record : Value) :
    (w.update now record timeout).Course (AsksInTurn w (.update now record) (w.selection.callTimeout timeout))
      w.FailsInTime (fun _ _ => True) [] := by
  have hpure {α : Type} (r : Outcome α) : FailsOnly (w.FailsInTime []) r := onlySelects_nil.failsOnly r
  refine course_lift_bind (hpure _) fun _ _ => course_lift_bind (hpure _) fun _ _ => ?_
  refine course_lift_bind (hpure _) fun row hrow => ?_
  split
  · exact trivial
  rename_i hfull
  refine course_lift_bind (hpure _) fun p hp => ?_
  refine (course_checkTargets onlySelects_nil).bind fun past _ hchecked => ?_
  obtain ⟨checks, rfl, htargets⟩ := hchecked
  refine course_bind.mpr ⟨.inr ⟨⟨false, rfl⟩, ?_⟩, fun _ => trivial⟩
  exact .update hp hrow (Bool.eq_false_iff.mpr hfull) htargets

theorem course_updateById (now : Instant) (id record : Value) :
    (w.updateById now id record timeout).Course
      (AsksInTurn w (.updateById now id record) (w.selection.callTimeout timeout)) w.FailsInTime
      (fun _ _ => True) [] := by
  have hpure {α : Type} (r : Outcome α) : FailsOnly (w.FailsInTime []) r := onlySelects_nil.failsOnly r
  refine course_lift_bind (hpure _) fun q hq => course_lift_bind (hpure _) fun _ _ => ?_
  refine course_lift_bind (hpure _) fun p hp => ?_
  have hreads := Request.reads_probing w p (w.selection.callTimeout timeout)
  refine course_bind.mpr ⟨.inl hreads, fun rows => ?_⟩
  have hprobed := onlySelects_nil.answered hreads rows
  change (Program.done rows.head?).Course _ _ _ _
  cases hcurrent : rows.head? with
  | none => exact hprobed.failsInTime
  | some current =>
    refine course_lift_bind (hprobed.failsOnly _) fun row hrow => ?_
    split
    · exact course_find id
    rename_i hfull
    refine (course_checkEach hprobed).bind fun past _ hchecked => ?_
    obtain ⟨probes, rfl, hpasses⟩ := hchecked
    refine course_bind.mpr (course_bind.mpr ⟨.inr ⟨⟨false, rfl⟩, ?_⟩, fun _ => course_find id⟩)
    exact .updateById (mapError_eq_ok.mp hq) hp hcurrent hrow (Bool.eq_false_iff.mpr hfull) hpasses

theorem course_delete (now : Instant) :
    (w.selection.delete now timeout).Course (AsksInTurn w (.delete now) (w.selection.callTimeout timeout))
      w.FailsInTime (fun _ _ => True) [] := by
  have hpure {α : Type} (r : Outcome α) : FailsOnly (w.FailsInTime []) r := onlySelects_nil.failsOnly r
  refine course_lift_bind (hpure _) fun _ _ => course_lift_bind (hpure _) fun _ _ => ?_
  refine course_lift_bind (hpure _) fun p hp => ?_
  exact course_bind.mpr ⟨.inr ⟨⟨false, rfl⟩, .delete hp⟩, fun _ => trivial⟩

/-- The existence of rows is asked by the same statement as their number. -/
theorem count_eq_counting {statement : Select} (h : statement.table = w.selection.table.name) :
    statement.count w.selection.dialect = w.counting statement.restriction := by
  unfold Select.count Select.fromText Writer.counting
  rw [h, ← String.append_assoc, ← String.append_assoc]
  rfl

theorem course_deleteById (now : Instant) (id : Value) (extra : Option Query) :
    (w.selection.deleteById now id extra timeout).Course
      (AsksInTurn w (.deleteById now id extra) (w.selection.callTimeout timeout)) w.FailsInTime
      (fun _ _ => True) [] := by
  have hpure {α : Type} (r : Outcome α) : FailsOnly (w.FailsInTime []) r := onlySelects_nil.failsOnly r
  refine course_lift_bind (hpure _) fun q hq => course_lift_bind (hpure _) fun _ _ => ?_
  refine course_lift_bind (hpure _) fun p hp => ?_
  refine course_bind.mpr (course_bind.mpr (course_lift_bind (hpure _) fun statement hst => ?_))
  -- The existence of a row is asked by a reader of its own, which compiles the query once more.
  have hreads := Selection.reads_of_aggregateSelect hst
  have hrestriction : p = statement.restriction := Except.ok.inj (hp.symm.trans hreads.restriction)
  have hcount : statement.count w.selection.dialect = w.counting p := by
    rw [hrestriction]
    exact count_eq_counting hreads.table
  have hlimit : ({ w.selection with query := q, model := none, timeout := .null } : Selection).callTimeout
      (w.selection.callTimeout timeout) = w.selection.callTimeout timeout := Selection.callTimeout_of_null rfl
  rw [hlimit]
  show Program.Course _ _ _ (fetchValue (statement.count w.selection.dialect) _ >>= _) _
  rw [hcount]
  have hcounts := Request.reads_counting w p (w.selection.callTimeout timeout)
  refine course_bind.mpr ⟨.inl hcounts, fun v => ?_⟩
  have hcounted := onlySelects_nil.answered hcounts v
  refine course_lift (hcounted.failsOnly _) fun n hn => ?_
  show Program.Course _ _ _ (if decide (0 < n) = true then _ else _) _
  split
  · rename_i hsome
    refine course_bind.mpr ⟨.inr ⟨⟨false, rfl⟩, ?_⟩, fun _ => trivial⟩
    exact .deleteById (mapError_eq_ok.mp hq) hp hn (of_decide_eq_true hsome)
  · exact hcounted.failsInTime

/-- What each operation asks and how it fails, along each of its runs. -/
theorem course_program (w : Writer) (op : Operation) (timeout : Value) :
    (op.program w timeout).Course (op.AsksInTurn w (w.selection.callTimeout timeout)) w.FailsInTime
      (fun _ _ => True) [] := by
  have hreading {p : Program Unit} (hp : p.Always Request.Reads fun _ => True) :
      p.Course (op.AsksInTurn w (w.selection.callTimeout timeout)) w.FailsInTime (fun _ _ => True) [] :=
    (course_of_reads hp onlySelects_nil).mono (fun _ _ h => h) (fun _ _ h => h) fun _ _ _ => trivial
  have hrows (d : Dialect) (limit : Value) (statement : Select) : (⟨.rows, statement.rows d, limit⟩ : Request).Reads :=
    Request.reads_rows statement
  have hload (d : Dialect) (limit : Value) (link : Link) (target : Table) (keys : List Value)
      (_ : w.selection.table.Reaches link target) :
      (⟨.rows, Preload.statement d link target keys, limit⟩ : Request).Reads := Request.reads_preload link target keys
  cases op with
  | get => exact hreading (always_void.mpr (Selection.always_get (fun _ _ => hrows _ _ _) (hload _ _)))
  | page =>
    refine hreading (always_void.mpr (Selection.always_page ?_ (fun _ _ => hrows _ _ _) (hload _ _)))
    exact fun _ _ => Request.reads_count _
  | first => exact hreading (always_void.mpr (Selection.always_first (fun _ _ => hrows _ _ _) (hload _ _)))
  | find id => exact hreading (always_void.mpr (Selection.always_find (fun _ _ _ _ => hrows _ _ _) (hload _ _)))
  | count => exact hreading (always_void.mpr (Selection.always_count fun _ _ => Request.reads_count _))
  | sum field =>
    exact hreading (always_void.mpr (Selection.always_sum fun _ _ _ => Request.reads_aggregate _ _ _))
  | average field =>
    exact hreading (always_void.mpr (Selection.always_average fun _ _ _ => Request.reads_aggregate _ _ _))
  | exist => exact hreading (always_void.mpr (Selection.always_exist fun _ _ => Request.reads_count _))
  | existsById id =>
    exact hreading (always_void.mpr (Selection.always_existsById fun _ _ _ _ => Request.reads_count _))
  | create now record => exact course_void.mpr (course_create now record)
  | update now record => exact course_void.mpr (course_update now record)
  | updateById now id record => exact course_void.mpr (course_updateById now id record)
  | delete now => exact course_void.mpr (course_delete now)
  | deleteById now id extra => exact course_void.mpr (course_deleteById now id extra)

/-- Checks come first. Each statement of an operation either reads or changes rows; one that changes rows comes after
    statements that only read, among them those by which the operation became ready, so that there is one at most. If
    the operation fails by one of its checks, then nothing was changed. -/
theorem changes_checked (w : Writer) (op : Operation) (timeout : Value) :
    (op.program w timeout).Course
      (fun past r => (r.statement.IsSelect ∨ r.statement.IsChange) ∧ (r.statement.IsChange →
        OnlySelects past ∧ op.Ready w (w.selection.callTimeout timeout) past r.statement))
      (fun past f => w.CheckFailure f → OnlySelects past) (fun _ _ => True) [] := by
  refine (course_program w op timeout).mono (fun past r h => ?_) (fun _ _ h => h) fun _ _ h => h
  rcases h with hreads | ⟨-, hready⟩
  · exact ⟨.inl hreads.select, fun hchange => absurd hreads.select hchange.not_isSelect⟩
  · exact ⟨.inr hready.isChange.1, fun _ => ⟨hready.isChange.2, hready⟩⟩

end Operation
end TableQuery
