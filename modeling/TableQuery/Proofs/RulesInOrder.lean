import TableQuery.Proofs.CheckedChanges
import TableQuery.Proofs.RuleChecks

/-! The rules of a row that is saved. A row that is created is held against the rules by itself, a row that is updated
    by its key together with what is stored in the columns that are not written. The rules are probed in their order
    until a probe finds a row; then the operation fails, and otherwise the row is written. -/

namespace TableQuery
open Program

/-! ### Rows to save -/

namespace Writer
variable {w : Writer}

theorem failsWith_insertedRow (now : Instant) (record : Row) :
    (w.insertedRow now (.dict record)).FailsWith fun _ => False := by
  refine failsWith_lift_bind (P := fun _ => False) trivial fun given => ?_
  refine FailsWith.bind ?_ fun row => trivial
  rcases w.withKey_cases (w.withoutRelations given) with ⟨keyed, h⟩ | ⟨keyed, h⟩
  · rw [h]
    exact trivial
  · rw [h]
    exact fun key => trivial

theorem failsOnly_updatedColumns (now : Instant) (record : Row) :
    FailsOnly Failure.Local (w.updatedColumns now (.dict record)) := by
  refine FailsOnly.bind (P := Failure.Local) trivial fun given _ => ?_
  dsimp only
  split
  · exact trivial
  · split <;> exact trivial

end Writer

/-! ### What is asked and what follows -/

/-- A row that is about to be saved: what is written, what its columns hold after that, the key of the row that is
    there already or null, and the rules that it has to be held against. -/
structure Candidate where
  written : Row
  held : String → Option Value
  self : Value
  rules : List UniqueRule

namespace Candidate
variable (c : Candidate) (w : Writer) (limit : Value)

/-- The values that no other row may hold together. -/
def values (rule : UniqueRule) : List Value := rule.fields.map fun field => (c.held field).getD .null

/-- The values with their columns. -/
def pairs (rule : UniqueRule) : List (String × Value) :=
  rule.fields.map fun field => (field, (c.held field).getD .null)

/-- The count of the rows that hold the values of a rule, apart from the row itself and from stamped rows. -/
def probe (rule : UniqueRule) : Statement :=
  ⟨"SELECT COUNT(*) FROM " ++ w.selection.dialect.quote w.selection.table.name ++ " WHERE " ++
    joinWith " AND " (w.uniqueness.probeTests rule.fields c.self),
   c.values rule ++ if c.self.isNull then [] else [c.self]⟩

/-- The failure that names the fields of a rule and their values, a single one as it is. -/
def duplicate (rule : UniqueRule) : Failure :=
  .database (.make .duplicate (joinWith "," rule.fields ++ " already exists") (.text (joinWith "," rule.fields))
    (match c.values rule with
      | [v] => v
      | vs => .tuple vs)) none

/-- A rule was probed, and no row was found. -/
def Passed (rule : UniqueRule) (e : Exchange) : Prop := ∃ (v : Value) (n : Int),
  e = .answered ⟨.value, c.probe w rule, limit⟩ v ∧ v.toCount = .ok n ∧ n ≤ 0

/-- A new row has its own values, and all rules that they fill. -/
def created (row : Row) : Candidate := ⟨row, row.get?, .null, w.rules.filter fun rule => rule.FilledBy row.get?⟩

/-- What the columns of a stored row hold once others are written. -/
def merged (current row : Row) (column : String) : Option Value := (row.get? column).or (current.get? column)

/-- A stored row keeps what is not written. Of the rules that it then fills those count that have a written field. -/
def updated (id : Value) (current row : Row) : Candidate :=
  ⟨row, merged current row, id, w.rules.filter fun rule => rule.MetBy row.get? ∧ rule.FilledBy (merged current row)⟩

end Candidate

namespace Operation

/-- The record that an operation saves, if it is a dictionary. -/
def saves : Operation → Option Row
  | create _ (.dict record) | updateById _ _ (.dict record) => some record
  | _ => none

section
variable (w : Writer) (limit : Value)

/-- The row that an operation is about to save after what it has exchanged. -/
inductive Proposes : Operation → List Exchange → Candidate → Prop
  | create {now : Instant} {record : Value} {run : List Exchange} {row : Row} :
    (w.insertedRow now record).EndsAfter run row → row.isEmpty = false →
    Proposes (.create now record) run (.created w row)
  | updateById {now : Instant} {id record : Value} {q : Query} {p : Predicate} {rows : List Row} {current row : Row} :
    w.selection.queryById id = .ok q → w.selection.predicate q = .ok p → rows.head? = some current →
    w.updatedColumns now record = .ok row → row.isEmpty = false →
    Proposes (.updateById now id record) [.answered ⟨.rows, w.probing p, limit⟩ rows] (.updated w id current row)

/-- The statement by which an operation writes a row. -/
inductive Writes : Operation → Row → Statement → Prop
  | insert {now : Instant} {record : Value} {row : Row} : Writes (.create now record) row (w.insertion row)
  | insertReturning {now : Instant} {record : Value} {row : Row} : Writes (.create now record) row
    { w.insertion row with sql := (w.insertion row).sql ++ " RETURNING *" }
  | update {now : Instant} {id record : Value} {q : Query} {p : Predicate} {row : Row} :
    w.selection.queryById id = .ok q → w.selection.predicate q = .ok p →
    Writes (.updateById now id record) row (w.updating row p)

variable (op : Operation)

/-- Where an operation has nothing more to check: the row was written after all of its rules had passed, or an update
    has no column to write. What follows only reads rows. -/
inductive Settled : List Exchange → Prop
  | written {c : Candidate} {before probes : List Exchange} {returning : Bool} {st : Statement} {answer : WriteResult} :
    op.Proposes w limit before c → List.Forall₂ (c.Passed w limit) c.rules probes → op.Writes w c.written st →
    Settled (before ++ probes ++ [.answered ⟨.write returning, st, limit⟩ answer])
  | unwritten {now : Instant} {id record : Value} {q : Query} {p : Predicate} {rows : List Row} :
    op = .updateById now id record → w.selection.queryById id = .ok q → w.selection.predicate q = .ok p →
    w.updatedColumns now record = .ok [] →
    Settled [.answered ⟨.rows, w.probing p, limit⟩ rows]
  | read {past : List Exchange} {r : Request} {answer : r.kind.Answer} : Settled past → r.kind = .rows →
    Settled (past ++ [.answered r answer])
  | drawn {past : List Exchange} {key : Value} : Settled past → Settled (past ++ [.drawn key])

/-- What an operation asks after what went before: the row of the key, the probe of the first rule that has not passed
    yet, the writing of the row if all have, and rows to read back at the end. -/
inductive AsksInOrder : List Exchange → Request → Prop
  | current {now : Instant} {id record : Value} {q : Query} {p : Predicate} : op = .updateById now id record →
    w.selection.queryById id = .ok q → w.selection.predicate q = .ok p →
    AsksInOrder [] ⟨.rows, w.probing p, limit⟩
  | probe {c : Candidate} {before probes : List Exchange} {passed rest : List UniqueRule} {rule : UniqueRule} :
    op.Proposes w limit before c → c.rules = passed ++ rule :: rest →
    List.Forall₂ (c.Passed w limit) passed probes →
    AsksInOrder (before ++ probes) ⟨.value, c.probe w rule, limit⟩
  | write {c : Candidate} {before probes : List Exchange} {returning : Bool} {st : Statement} :
    op.Proposes w limit before c → List.Forall₂ (c.Passed w limit) c.rules probes → op.Writes w c.written st →
    AsksInOrder (before ++ probes) ⟨.write returning, st, limit⟩
  | read {past : List Exchange} {r : Request} : op.Settled w limit past → r.kind = .rows → AsksInOrder past r

/-- A probe of a rule has just found a row, after the rules in front of it had passed. -/
inductive Collides : List Exchange → Candidate → UniqueRule → Prop
  | found {c : Candidate} {before probes : List Exchange} {passed rest : List UniqueRule} {rule : UniqueRule} {v : Value}
    {n : Int} : op.Proposes w limit before c → c.rules = passed ++ rule :: rest →
    List.Forall₂ (c.Passed w limit) passed probes → v.toCount = .ok n → 0 < n →
    Collides (before ++ probes ++ [.answered ⟨.value, c.probe w rule, limit⟩ v]) c rule

end

end Operation

/-- A count was answered, and it was not zero. -/
def CountsSome (past : List Exchange) : Prop := ∃ (st : Statement) (limit v : Value) (n : Int),
  .answered ⟨.value, st, limit⟩ v ∈ past ∧ v.toCount = .ok n ∧ 0 < n

/-- The failure that a value is there already. -/
def Failure.IsDuplicate (f : Failure) : Prop := ∃ e cause, f = .database e cause ∧ e.kind = .duplicate

namespace Operation

/-- An operation fails for a duplicate where a probe has found a row, and nowhere else. -/
def FailsInOrder (w : Writer) (limit : Value) (op : Operation) (past : List Exchange) (f : Failure) : Prop :=
  CountsSome past ∨ f.IsDuplicate → ∃ c rule, op.Collides w limit past c rule ∧ f = c.duplicate rule

/-- An operation checks its rules one after the other, and goes on as long as no row is found. -/
abbrev RunsInOrder (w : Writer) (limit : Value) (op : Operation) {α : Type} (ended : List Exchange → α → Prop)
    (prog : Program α) (past : List Exchange) : Prop :=
  prog.Course (fun past r => ¬ CountsSome past ∧ op.AsksInOrder w limit past r) (op.FailsInOrder w limit) ended past

section
variable {w : Writer} {limit timeout : Value} {op : Operation} {past before probes : List Exchange} {c : Candidate}
  {rules : List UniqueRule} {f : Failure} {st : Statement}

/-! ### Counts -/

theorem not_countsSome_nil : ¬ CountsSome [] := by
  rintro ⟨st, limit, v, n, hmem, -⟩
  cases hmem

theorem not_countsSome_append {more : List Exchange} (h : ¬ CountsSome past) (hmore : ¬ CountsSome more) :
    ¬ CountsSome (past ++ more) := by
  rintro ⟨st, limit, v, n, hmem, hn⟩
  rcases List.mem_append.mp hmem with hmem | hmem
  · exact h ⟨st, limit, v, n, hmem, hn⟩
  · exact hmore ⟨st, limit, v, n, hmem, hn⟩

theorem not_countsSome_singleton {r : Request} {answer : r.kind.Answer} (h : r.kind ≠ .value) :
    ¬ CountsSome [.answered r answer] := by
  rintro ⟨st, limit, v, n, hmem, -⟩
  cases List.mem_singleton.mp hmem
  exact h rfl

theorem not_countsSome_value {v : Value} (h : ∀ n, v.toCount = .ok n → n ≤ 0) :
    ¬ CountsSome [.answered ⟨.value, st, limit⟩ v] := by
  rintro ⟨st', limit', v', n, hmem, hn, hpositive⟩
  cases List.mem_singleton.mp hmem
  exact absurd (h n hn) (Int.not_le.mpr hpositive)

theorem not_countsSome_of_passed (h : List.Forall₂ (c.Passed w limit) rules probes) : ¬ CountsSome probes := by
  rintro ⟨st, limit', v, n, hmem, hn, hpositive⟩
  obtain ⟨rule, -, v', n', he, hn', hnone⟩ := forall₂_mem_right h _ hmem
  cases he
  rw [hn] at hn'
  cases hn'
  exact absurd hnone (Int.not_le.mpr hpositive)

theorem Proposes.not_countsSome (h : op.Proposes w limit before c) : ¬ CountsSome before := by
  cases h with
  | create hrun _ =>
    rintro ⟨st, limit, v, n, hmem, -⟩
    obtain ⟨key, he⟩ := hrun.drawn Writer.always_insertedRow _ hmem
    cases he
  | updateById => exact not_countsSome_singleton (fun h => nomatch h)

theorem Settled.not_countsSome (h : op.Settled w limit past) : ¬ CountsSome past := by
  induction h with
  | written hproposes hpasses _ =>
    exact not_countsSome_append (not_countsSome_append hproposes.not_countsSome (not_countsSome_of_passed hpasses))
      (not_countsSome_singleton fun h => nomatch h)
  | unwritten => exact not_countsSome_singleton (fun h => nomatch h)
  | read _ hrows ih =>
    exact not_countsSome_append ih (not_countsSome_singleton fun h => nomatch hrows.symm.trans h)
  | drawn _ ih =>
    refine not_countsSome_append ih ?_
    rintro ⟨st, limit, v, n, hmem, -⟩
    cases List.mem_singleton.mp hmem

/-! ### Failures -/

theorem failsInOrder_of_not (hpast : ¬ CountsSome past) (hf : ¬ f.IsDuplicate) : op.FailsInOrder w limit past f := by
  rintro (h | h)
  · exact absurd h hpast
  · exact absurd h hf

theorem not_isDuplicate_of_local (h : f.Local) : ¬ f.IsDuplicate := by
  rintro ⟨e, cause, rfl, -⟩
  exact h e cause rfl

theorem not_isDuplicate_noRecord (s : Selection) (id : Value) : ¬ (s.noRecord id).IsDuplicate := by
  rintro ⟨e, cause, h, hkind⟩
  cases h
  cases hkind

theorem not_isDuplicate_of_readFailure {s : Selection} (h : s.ReadFailure f) : ¬ f.IsDuplicate := by
  rcases h with h | rfl
  · exact not_isDuplicate_of_local h
  · rintro ⟨e, cause, h, hkind⟩
    cases h
    cases hkind

theorem failsOnly_inOrder {α : Type} {r : Outcome α} (hpast : ¬ CountsSome past) (h : FailsOnly Failure.Local r) :
    FailsOnly (op.FailsInOrder w limit past) r :=
  h.mono fun _ hlocal => failsInOrder_of_not hpast (not_isDuplicate_of_local hlocal)

/-! ### The probes -/

theorem map_fst_pairs (c : Candidate) (rule : UniqueRule) : (c.pairs rule).map Prod.fst = rule.fields := by
  unfold Candidate.pairs
  rw [List.map_map]
  exact List.map_id _

theorem map_snd_pairs (c : Candidate) (rule : UniqueRule) : (c.pairs rule).map Prod.snd = c.values rule := by
  unfold Candidate.pairs
  rw [List.map_map]
  rfl

theorem probe_pairs {u : Uniqueness} (hd : u.dialect = w.selection.dialect) (ht : u.table = w.selection.table)
    (c : Candidate) (rule : UniqueRule) : u.probe (c.pairs rule) c.self .none = c.probe w rule := by
  rw [Uniqueness.probe_eq, map_fst_pairs, map_snd_pairs]
  unfold Candidate.probe Uniqueness.probeTests
  rw [hd, ht]
  rfl

theorem duplicate_pairs (c : Candidate) (rule : UniqueRule) :
    Uniqueness.duplicate rule (c.pairs rule) = c.duplicate rule := by
  unfold Uniqueness.duplicate Candidate.duplicate Candidate.values Candidate.pairs UniqueRule.label
  cases rule.fields with
  | nil => rfl
  | cons field fields =>
    cases fields with
    | nil => rfl
    | cons field' fields => simp [Function.comp_def]

theorem course_probes {u : Uniqueness} (hd : u.dialect = w.selection.dialect) (ht : u.table = w.selection.table)
    (hproposes : op.Proposes w limit before c) : ∀ {rest passed : List UniqueRule} {probes : List Exchange},
    c.rules = passed ++ rest → List.Forall₂ (c.Passed w limit) passed probes →
      op.RunsInOrder w limit (fun now _ => ∃ probes, now = before ++ probes ∧ List.Forall₂ (c.Passed w limit) c.rules probes)
        (u.checkEach c.self .none limit (rest.map fun rule => (rule, c.pairs rule))) (before ++ probes)
  -- By recursion on the rules that are left: one that passes joins `passed`, and its exchange joins `probes`.
  | [], passed, probes, hrules, hpasses => by
    rw [List.append_nil] at hrules
    exact ⟨probes, rfl, hrules ▸ hpasses⟩
  | rule :: rest, passed, probes, hrules, hpasses => by
    have hcalm := not_countsSome_append hproposes.not_countsSome (not_countsSome_of_passed hpasses)
    rw [List.map_cons, Uniqueness.checkEach, probe_pairs hd ht, duplicate_pairs]
    refine course_bind.mpr ⟨⟨hcalm, .probe hproposes hrules hpasses⟩, fun v => ?_⟩
    have hfails : FailsOnly (op.FailsInOrder w limit (before ++ probes ++ [.answered ⟨.value, c.probe w rule, limit⟩ v]))
        v.toCount := by
      have hlocal := v.failsOnly_toCount
      cases hn : v.toCount with
      | ok n => exact trivial
      | error f =>
        rw [hn] at hlocal
        refine failsInOrder_of_not (not_countsSome_append hcalm (not_countsSome_value fun n hok => ?_))
          (not_isDuplicate_of_local hlocal)
        rw [hn] at hok
        cases hok
    refine course_lift_bind hfails fun n hn => ?_
    split
    · rename_i hpositive
      exact fun _ => ⟨c, rule, .found hproposes hrules hpasses hn hpositive, rfl⟩
    · rename_i hnone
      have hpassed : List.Forall₂ (c.Passed w limit) (passed ++ [rule])
          (probes ++ [.answered ⟨.value, c.probe w rule, limit⟩ v]) :=
        List.rel_append hpasses (.cons ⟨v, n, rfl, hn, Int.not_lt.mp hnone⟩ .nil)
      have hrest : c.rules = (passed ++ [rule]) ++ rest := by
        rw [hrules, List.append_assoc]
        rfl
      rw [List.append_assoc]
      exact course_probes hd ht hproposes hrest hpassed

/-! ### What is written and read back -/

theorem course_reading {α : Type} {ends : α → Prop} : ∀ {prog : Program α} {past : List Exchange},
    prog.Always (fun r => r.kind = .rows) ends → prog.FailsWith (fun f => ¬ f.IsDuplicate) → op.Settled w limit past →
      op.RunsInOrder w limit (fun past _ => ¬ CountsSome past ∧ op.Settled w limit past) prog past
  | .done _, _, _, _, hpast => ⟨hpast.not_countsSome, hpast⟩
  | .fail _, _, _, hfails, hpast => failsInOrder_of_not hpast.not_countsSome hfails
  | .ask _ _, _, halways, hfails, hpast => ⟨⟨hpast.not_countsSome, .read hpast halways.1⟩, fun answer =>
    course_reading (halways.2 answer) (hfails answer) (.read hpast halways.1)⟩
  | .draw _, _, halways, hfails, hpast => fun key => course_reading (halways key) (hfails key) (.drawn hpast)

theorem course_find_settled (s : Selection) (id : Value) (hpast : op.Settled w limit past) :
    op.RunsInOrder w limit (fun past _ => ¬ CountsSome past ∧ op.Settled w limit past) (s.find id timeout) past := by
  have halways : (s.find id timeout).Always (fun r => r.kind = .rows) fun _ => True :=
    Selection.always_find (fun _ _ _ _ => rfl) fun _ _ _ _ => rfl
  have hfails := (s.failsWith_find id timeout).mono fun _ => not_isDuplicate_of_readFailure
  exact course_reading halways hfails hpast

/-! ### The operations -/

theorem create_runsInOrder (hm : w.selection.model = none) (now : Instant) (record : Row) :
    RunsInOrder w (w.selection.callTimeout timeout) (.create now (.dict record))
      (fun past _ => ¬ CountsSome past ∧ Settled w (w.selection.callTimeout timeout) (.create now (.dict record)) past)
      (w.create now (.dict record) timeout) [] := by
  have hsilent : (w.insertedRow now (.dict record)).Always (fun _ => False) fun _ => True := Writer.always_insertedRow
  have hinserted : RunsInOrder w (w.selection.callTimeout timeout) (.create now (.dict record)) (fun _ _ => True)
      (w.insertedRow now (.dict record)) [] :=
    hsilent.course (fun _ _ h => h.elim) (fun _ _ h => h.elim) (Writer.failsWith_insertedRow now record)
  refine hinserted.endsAfter.bind fun before row ⟨_, run, hbefore, hrun⟩ => ?_
  rw [List.nil_append] at hbefore
  subst hbefore
  split
  · refine failsInOrder_of_not ?_ (not_isDuplicate_of_local fun _ _ h => nomatch h)
    rintro ⟨st, limit, v, n, hmem, -⟩
    obtain ⟨key, he⟩ := hrun.drawn Writer.always_insertedRow _ hmem
    cases he
  rename_i hfull
  have hproposes : Proposes w (w.selection.callTimeout timeout) (.create now (.dict record)) before (.created w row) :=
    .create hrun (Bool.eq_false_iff.mpr hfull)
  have henforced : w.uniqueness.enforced (.dict row) =
      (Candidate.created w row).rules.map fun rule => (rule, (Candidate.created w row).pairs rule) := by
    rw [Uniqueness.enforced_eq, Uniqueness.lookup?_dict hm]
    exact List.map_congr_left fun rule _ => congrArg (Prod.mk rule) (Uniqueness.columnValues_dict hm row rule)
  have hprobes := course_probes (u := w.uniqueness) rfl rfl hproposes (List.nil_append _).symm .nil
  rw [List.append_nil] at hprobes
  unfold Uniqueness.check
  rw [henforced]
  refine hprobes.bind fun past' _ hpassed => ?_
  obtain ⟨probes, rfl, hpasses⟩ := hpassed
  have hcalm := not_countsSome_append hproposes.not_countsSome (not_countsSome_of_passed hpasses)
  dsimp only
  split
  · have hsaved : Writes w (.create now (.dict record)) row
        { w.insertion row with sql := (w.insertion row).sql ++ " RETURNING *" } := .insertReturning
    refine course_bind.mpr ⟨⟨hcalm, .write hproposes hpasses hsaved⟩, fun result => ?_⟩
    have hsettled : Settled w (w.selection.callTimeout timeout) (.create now (.dict record)) (before ++ probes ++
        [.answered ⟨.write true, { w.insertion row with sql := (w.insertion row).sql ++ " RETURNING *" },
          w.selection.callTimeout timeout⟩ result]) := .written hproposes hpasses hsaved
    exact course_lift (failsOnly_inOrder hsettled.not_countsSome (w.failsOnly_returnedRow result))
      fun _ _ => ⟨hsettled.not_countsSome, hsettled⟩
  · have hsaved : Writes w (.create now (.dict record)) row (w.insertion row) := .insert
    refine course_bind.mpr ⟨⟨hcalm, .write hproposes hpasses hsaved⟩, fun result => ?_⟩
    exact course_find_settled _ _ (.written hproposes hpasses hsaved)

theorem updateById_runsInOrder (hm : w.selection.model = none) (now : Instant) (id : Value) {record : Row}
    (hrecord : (record.map Prod.fst).Nodup) :
    RunsInOrder w (w.selection.callTimeout timeout) (.updateById now id (.dict record))
      (fun past _ => ¬ CountsSome past ∧
        Settled w (w.selection.callTimeout timeout) (.updateById now id (.dict record)) past)
      (w.updateById now id (.dict record) timeout) [] := by
  refine course_lift_bind (failsOnly_inOrder not_countsSome_nil (Compiler.failsOnly_ofQuery _)) fun q hq => ?_
  refine course_lift_bind (failsOnly_inOrder not_countsSome_nil (Compiler.failsOnly_validate _)) fun _ _ => ?_
  refine course_lift_bind (failsOnly_inOrder not_countsSome_nil (w.selection.failsOnly_predicate _)) fun p hp => ?_
  replace hq := mapError_eq_ok.mp hq
  refine course_bind.mpr ⟨⟨not_countsSome_nil, .current rfl hq hp⟩, fun rows => ?_⟩
  have hcalm : ¬ CountsSome [.answered ⟨.rows, w.probing p, w.selection.callTimeout timeout⟩ rows] :=
    not_countsSome_singleton fun h => nomatch h
  change (Program.done rows.head?).Course _ _ _ _
  cases hcurrent : rows.head? with
  | none => exact failsInOrder_of_not hcalm (not_isDuplicate_noRecord _ _)
  | some current =>
    refine course_lift_bind (failsOnly_inOrder hcalm (w.failsOnly_updatedColumns now record)) fun row hrow => ?_
    split
    · rename_i hempty
      rw [List.isEmpty_iff] at hempty
      subst hempty
      exact course_find_settled _ _ (.unwritten rfl hq hp hrow)
    rename_i hfull
    have hproposes : Proposes w (w.selection.callTimeout timeout) (.updateById now id (.dict record))
        [.answered ⟨.rows, w.probing p, w.selection.callTimeout timeout⟩ rows] (.updated w id current row) :=
      .updateById hq hp hcurrent hrow (Bool.eq_false_iff.mpr hfull)
    have hmerged : Row.get? (Writer.overlay current row) = Candidate.merged current row := by
      funext column
      exact Row.get?_overlay (Writer.nodup_updatedColumns hrecord hrow) current column
    -- The code asks the written row which rules it meets, and the merged row which of them it fills.
    have henforced : (w.uniqueness.touchedBy (.dict row)).enforced (.dict (Writer.overlay current row)) =
        (Candidate.updated w id current row).rules.map fun rule => (rule, (Candidate.updated w id current row).pairs rule) := by
      have hrules : (w.uniqueness.rules.filter fun rule => decide (rule.FilledBy (Candidate.merged current row)) &&
          decide (rule.MetBy row.get?)) = (Candidate.updated w id current row).rules := by
        refine List.filter_congr fun rule _ => ?_
        rw [Bool.and_comm, Bool.decide_and]
      rw [Uniqueness.enforced_eq, Uniqueness.rules_touchedBy, Uniqueness.lookup?_dict hm, Uniqueness.lookup?_dict hm, hmerged,
        List.filter_filter, hrules]
      refine List.map_congr_left fun rule _ => congrArg (Prod.mk rule) ?_
      rw [Uniqueness.columnValues_dict hm, hmerged]
      rfl
    have hprobes := course_probes (u := w.uniqueness.touchedBy (.dict row)) rfl rfl hproposes (List.nil_append _).symm .nil
    rw [List.append_nil] at hprobes
    dsimp only
    unfold Uniqueness.check
    rw [henforced]
    refine hprobes.bind fun past' _ hpassed => ?_
    obtain ⟨probes, rfl, hpasses⟩ := hpassed
    have hcalm' := not_countsSome_append hproposes.not_countsSome (not_countsSome_of_passed hpasses)
    have hsaved : Writes w (.updateById now id (.dict record)) row (w.updating row p) := .update hq hp
    refine course_bind.mpr (course_bind.mpr ⟨⟨hcalm', .write hproposes hpasses hsaved⟩, fun result => ?_⟩)
    exact course_find_settled _ _ (.written hproposes hpasses hsaved)

end

end Operation
end TableQuery
