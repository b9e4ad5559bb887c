import TableQuery.Proofs.Conjuncts
import TableQuery.Proofs.WriteRequests

/-! Operations on all rows of a selection. They are refused where neither the query nor a condition in statement
    text restricts them; the refusal takes every condition in statement text for one that does, though a blank
    one restricts nothing. -/

namespace TableQuery
open Program

/-! ### Writers as they are built -/

/-- The writers that are built from a table by any steps in any order. -/
inductive Writer.Built : Writer → Prop
  | start (d : Dialect) (table : Table) (settings : Settings) (model : Option Model) (q : Query) (timeout : Value) :
    Built (.ofSelection { Selection.all d table settings with model, query := q, timeout })
  | restrict {w : Writer} (sql : String) (args : List Value) : Built w →
    Built { w with selection := w.selection.restrict sql args }
  | withQuery {w : Writer} (q : Query) : Built w → Built { w with selection := w.selection.withQuery q }
  | unscoped {w : Writer} : Built w → Built { w with selection := w.selection.unscoped }
  | withTimeout {w : Writer} (timeout : Value) : Built w →
    Built { w with selection := w.selection.withTimeout timeout }
  | allowing {w w' : Writer} {columns : List Value} : Built w → w.allowing columns = .ok w' → Built w'
  | denying {w w' : Writer} {columns : List Value} : Built w → w.denying columns = .ok w' → Built w'
  | unique {w w' : Writer} {fields : List Value} : Built w → w.unique fields = .ok w' → Built w'
  | uniqueTogether {w w' : Writer} {fields : List Value} : Built w → w.uniqueTogether fields = .ok w' → Built w'

theorem Writer.Built.raw {w : Writer} (h : w.Built) :
    ∀ r ∈ w.selection.raw, ∃ sql args, r = Predicate.raw sql args := by
  induction h with
  | start => exact fun r hr => (nomatch hr)
  | restrict sql args _ ih =>
    intro r hr
    rcases List.mem_append.mp hr with hr | hr
    · exact ih r hr
    · exact ⟨sql, args, List.mem_singleton.mp hr⟩
  | withQuery q _ ih => exact ih
  | unscoped _ ih => exact ih
  | withTimeout timeout _ ih => exact ih
  | allowing _ hw ih | denying _ hw ih =>
    obtain ⟨policy, -, hw⟩ := bind_eq_ok.mp hw
    cases hw
    exact ih
  | unique _ hw ih | uniqueTogether _ hw ih =>
    obtain ⟨rules, -, hw⟩ := bind_eq_ok.mp hw
    cases hw
    exact ih

/-! ### What a selection asks for -/

namespace Selection
variable {s : Selection} {q : Query} {p part own : Predicate}

/-- The predicates by which a selection is restricted on request: a group with a condition that is not left out,
    the test of a required field, and a condition in statement text that is not blank. -/
inductive Asks (s : Selection) (q : Query) : Predicate → Prop
  | group {g : Group} {cond : Condition} {p : Predicate} : g ∈ q.search → cond ∈ g.conditions →
    s.compiler.isSkipped cond = false → s.compiler.group g = .ok p → Asks s q p
  | required {name : String} : Value.text name ∈ q.required → Asks s q (s.dialect.holdsSomething name)
  | raw {sql : String} {args : List Value} : Predicate.raw sql args ∈ s.raw → trimText sql ≠ "" →
    Asks s q (Predicate.raw sql args)

/-- A selection with conditions in statement text, all of which are blank, and nothing else to restrict it. -/
def OnlyBlank (s : Selection) : Prop :=
  s.raw ≠ [] ∧ (∀ r ∈ s.raw, r.isNone = true) ∧
    ∀ own, s.compiler.predicate s.query = .ok own → own.isNone = true

theorem isNone_raw {sql : String} {args : List Value} :
    (Predicate.raw sql args).isNone = true ↔ trimText sql = "" := by
  unfold Predicate.raw
  constructor
  · intro h
    by_contra hne
    rw [Predicate.grouped_some hne, Predicate.isNone_iff] at h
    simp [String.append_eq_empty_iff] at h
  · intro h
    rw [Predicate.isNone_iff, Predicate.grouped_none h]
    exact h

/-- A group that restricts something has a condition that is not left out. -/
theorem exists_of_group_isNone_eq_false {g : Group} (h : s.compiler.group g = .ok p) (hp : p.isNone = false) :
    ∃ cond ∈ g.conditions, s.compiler.isSkipped cond = false := by
  obtain ⟨-, fs, hfs, rfl⟩ := Compiler.group_eq_ok h
  by_contra hnone
  have hempty : (g.conditions.filter fun cond => !s.compiler.isSkipped cond) = [] := by
    refine List.filter_eq_nil_iff.mpr fun cond hcond hkept => hnone ⟨cond, hcond, ?_⟩
    simpa using hkept
  rw [Compiler.fragments, hempty] at hfs
  cases hfs
  cases hp

theorem text_mem_of_asNames {role : String} {vs : List Value} {names : List String}
    (h : Value.asNames role vs = .ok names) : ∀ name ∈ names, Value.text name ∈ vs := by
  intro name hname
  obtain ⟨v, hv, hok⟩ := forall₂_mem_right (mapM_eq_ok.mp h) name hname
  rw [← (Value.asName_eq_ok.mp hok).1]
  exact hv

/-- A conjunction of which a part is asked for, where the own predicate of the query restricts something. -/
theorem exists_part_of_own (hown : s.compiler.predicate q = .ok own) (h : own.isNone = false)
    (hp : s.predicate q = .ok p) : ∃ part, s.Asks q part ∧ p.HasPart part := by
  obtain ⟨groups, columns, hgroups, hcolumns, rfl⟩ := Compiler.predicate_eq_ok hown
  have hkept : Predicate.kept (groups ++ columns.map s.dialect.holdsSomething) ≠ [] := by
    intro hempty
    rw [Bool.eq_false_iff, ne_eq, Predicate.isNone_iff] at h
    exact h (Predicate.sql_join_eq_empty_iff.mpr hempty)
  obtain ⟨part, hpart⟩ := List.exists_mem_of_ne_nil _ hkept
  obtain ⟨hmem, hsome⟩ := Predicate.mem_kept.mp hpart
  have hnone : part.isNone = false := Bool.eq_false_iff.mpr (mt Predicate.isNone_iff.mp hsome)
  obtain ⟨own, hown', hp⟩ := bind_eq_ok.mp hp
  rw [hown] at hown'
  cases hown'
  cases hp
  refine ⟨part, ?_, ?_⟩
  · rcases List.mem_append.mp hmem with hmem | hmem
    · obtain ⟨g, hg, hgroup⟩ := forall₂_mem_right hgroups part hmem
      obtain ⟨cond, hcond, hskip⟩ := exists_of_group_isNone_eq_false hgroup hnone
      exact .group hg hcond hskip hgroup
    · obtain ⟨name, hname, rfl⟩ := List.mem_map.mp hmem
      exact .required (text_mem_of_asNames hcolumns name hname)
  · rw [List.cons_append, Predicate.all_cons_all]
    exact Predicate.hasPart_of_mem (List.mem_append_left _ hmem) hnone

theorem scope_cases : s.scope = .none ∨ s.scope.sql ≠ "" := by
  unfold scope Table.notDeleted
  split
  · split
    · exact .inr (by simp [String.append_eq_empty_iff])
    · exact .inl rfl
  · exact .inl rfl

theorem all_scope : Predicate.all [s.scope] = s.scope := by
  rcases s.scope_cases with h | h
  · rw [h]
    rfl
  · exact Predicate.join_singleton h "AND"

/-- What is left of the predicate where nothing is asked for. -/
theorem predicate_of_nothing (hown : s.compiler.predicate q = .ok own) (h : own.isNone = true)
    (hraw : ∀ r ∈ s.raw, r.isNone = true) (hp : s.predicate q = .ok p) : p = s.scope := by
  obtain ⟨own', hown', hp⟩ := bind_eq_ok.mp hp
  rw [hown] at hown'
  cases hown'
  cases hp
  have hkept : Predicate.kept (own :: s.raw) = [] := by
    refine List.filter_eq_nil_iff.mpr fun r hr => ?_
    rcases List.mem_cons.mp hr with rfl | hr
    · simp [h]
    · simp [hraw r hr]
  refine (Predicate.join_congr ?_).trans s.all_scope
  rw [Predicate.kept_append, hkept, List.nil_append]

/-- What a selection is restricted by that passes the check for restrictions. -/
theorem checked_predicate (hraw : ∀ r ∈ s.raw, ∃ sql args, r = Predicate.raw sql args) {refusal : Misuse}
    (hcheck : s.checkRestricted refusal = .ok ()) (hp : s.predicate s.query = .ok p) :
    (¬ s.OnlyBlank → ∃ part, s.Asks s.query part ∧ p.HasPart part) ∧ (s.OnlyBlank → p = s.scope) := by
  obtain ⟨own, hown, hcheck⟩ := bind_eq_ok.mp hcheck
  refine ⟨fun hsome => ?_, fun hblank => predicate_of_nothing hown (hblank.2.2 own hown) hblank.2.1 hp⟩
  cases hnone : own.isNone with
  | false => exact exists_part_of_own hown hnone hp
  | true =>
    have hne : s.raw ≠ [] := by
      intro hempty
      rw [hnone, hempty] at hcheck
      cases hcheck
    obtain ⟨r, hr, hfull⟩ : ∃ r ∈ s.raw, r.isNone = false := by
      by_contra hblank
      refine hsome ⟨hne, fun r hr => ?_, fun own' hown' => ?_⟩
      · exact (Bool.eq_false_or_eq_true r.isNone).resolve_right fun hfull => hblank ⟨r, hr, hfull⟩
      · rw [hown] at hown'
        cases hown'
        exact hnone
    obtain ⟨sql, args, rfl⟩ := hraw r hr
    refine ⟨_, .raw hr (mt isNone_raw.mpr (Bool.eq_false_iff.mp hfull)), ?_⟩
    obtain ⟨own', -, hp⟩ := bind_eq_ok.mp hp
    cases hp
    exact Predicate.hasPart_of_mem (List.mem_append_left _ (List.mem_cons_of_mem _ hr)) hfull

end Selection

/-! ### Updates and deletions of a whole selection -/

namespace Operation

def isBulk : Operation → Bool
  | update .. | delete _ => true
  | _ => false

/-- The statement by which an operation on a whole selection changes the rows of a predicate. An update without
    a column to write makes none. -/
inductive Changes (w : Writer) (p : Predicate) : Operation → Statement → Prop
  | update {now : Instant} {record : Value} {row : Row} : w.updatedColumns now record = .ok row →
    row.isEmpty = false → Changes w p (.update now record) (w.updating row p)
  | delete {now : Instant} : Changes w p (.delete now) (w.selection.deletion now p)

/-- The refusal of an operation that nothing restricts. -/
def refusal (w : Writer) : Operation → Failure
  | update .. => .misuse (.unrestrictedUpdate w.selection.table.name)
  | _ => .misuse (.unrestrictedDelete w.selection.table.name)

section
variable {w : Writer} {op : Operation} {timeout : Value}

theorem always_changes (hw : w.Built) (hop : op.isBulk = true) :
    (op.program w timeout).Always (fun r => ∀ returning, r.kind = .write returning →
      ∃ p, op.Changes w p r.statement ∧
        (¬ w.selection.OnlyBlank → ∃ part, w.selection.Asks w.selection.query part ∧ p.HasPart part) ∧
        (w.selection.OnlyBlank → p = w.selection.scope)) fun _ => True := by
  cases op with
  | update now record =>
    refine always_void.mpr (Writer.always_update ?_ ?_ ?_)
    · exact fun _ _ _ _ _ _ hk => nomatch hk
    · exact fun _ _ _ hk => nomatch hk
    · exact fun row p _ hcheck hp hrow hfull _ _ =>
        ⟨p, .update hrow hfull, Selection.checked_predicate hw.raw hcheck hp⟩
  | delete now =>
    refine always_void.mpr (Selection.always_delete ?_)
    exact fun p _ hcheck hp _ _ => ⟨p, .delete, Selection.checked_predicate hw.raw hcheck hp⟩
  | _ => exact (nomatch hop)

/-- Where no condition in statement text is given and the query restricts nothing, the operation is refused
    before it asks anything. -/
theorem refused (hop : op.isBulk = true) {own : Predicate} (hvalid : Compiler.validate w.selection.query = .ok ())
    (hown : w.selection.compiler.predicate w.selection.query = .ok own) (hnone : own.isNone = true)
    (hraw : w.selection.raw = []) : op.program w timeout = .fail (op.refusal w) := by
  have hcheck : ∀ refusal, w.selection.checkRestricted refusal = .error (.misuse refusal) := by
    intro refusal
    rw [Selection.checkRestricted, hown]
    show (if own.isNone && w.selection.raw.isEmpty then _ else _) = _
    rw [hnone, hraw]
    rfl
  cases op with
  | update now record =>
    show (w.update now record timeout).void = _
    unfold Writer.update
    dsimp only
    rw [hvalid, hcheck]
    rfl
  | delete now =>
    show (w.selection.delete now timeout).void = _
    unfold Selection.delete
    dsimp only
    rw [hvalid, hcheck]
    rfl
  | _ => exact (nomatch hop)

/-- Where the conditions in statement text are all blank and nothing else restricts the selection, the change of
    all rows is asked for, provided that no uniqueness rule is in its way. -/
theorem canAsk_changes {p : Predicate} {st : Statement} (hblank : w.selection.OnlyBlank)
    (hvalid : Compiler.validate w.selection.query = .ok ())
    (hp : w.selection.predicate w.selection.query = .ok p) (hst : op.Changes w p st) :
    (op.program w timeout).CanAsk ⟨.write false, st, w.selection.callTimeout timeout⟩ := by
  obtain ⟨own, hown, -⟩ := bind_eq_ok.mp hp
  have hcheck : ∀ refusal, w.selection.checkRestricted refusal = .ok () := by
    intro refusal
    rw [Selection.checkRestricted, hown]
    show (if own.isNone && w.selection.raw.isEmpty then _ else _) = _
    have hsome : w.selection.raw.isEmpty = false := by simpa using hblank.1
    rw [hsome, Bool.and_false]
    rfl
  cases hst with
  | @update now record row hrow hfull =>
    exact canAsk_bind_left (Writer.canAsk_update hvalid (hcheck _) hp hrow hfull)
  | delete =>
    refine canAsk_bind_left ?_
    refine canAsk_bind (a := ()) ?_ (canEnd_lift hvalid)
    refine canAsk_bind (a := ()) ?_ (canEnd_lift (hcheck _))
    refine canAsk_bind (a := p) ?_ (canEnd_lift hp)
    exact Or.inl rfl

end

/-- A change of all rows of a selection is restricted by something that is asked for, or nothing is changed: where
    neither conditions in statement text nor the query restrict the selection, the operation is refused. The one
    exception is a selection with conditions in statement text that are all blank. The check takes them for
    restrictions, and the change reaches every row that the stamp lets through. -/
theorem bulk_change_restricted {w : Writer} (hw : w.Built) (op : Operation) (hop : op.isBulk = true)
    (timeout : Value) :
    (op.program w timeout).Always (fun r => ∀ returning, r.kind = .write returning →
      ∃ p, op.Changes w p r.statement ∧
        (¬ w.selection.OnlyBlank → ∃ part, w.selection.Asks w.selection.query part ∧ p.HasPart part) ∧
        (w.selection.OnlyBlank → p = w.selection.scope)) (fun _ => True) ∧
    (∀ own, Compiler.validate w.selection.query = .ok () →
      w.selection.compiler.predicate w.selection.query = .ok own → own.isNone = true → w.selection.raw = [] →
      op.program w timeout = .fail (op.refusal w)) ∧
    ∀ p st, w.selection.OnlyBlank → Compiler.validate w.selection.query = .ok () →
      w.selection.predicate w.selection.query = .ok p → op.Changes w w.selection.scope st →
      (op.program w timeout).CanAsk ⟨.write false, st, w.selection.callTimeout timeout⟩ := by
  refine ⟨always_changes hw hop, fun own hvalid hown hnone hraw => refused hop hvalid hown hnone hraw, ?_⟩
  intro p st hblank hvalid hp hst
  obtain ⟨own, hown, -⟩ := bind_eq_ok.mp hp
  obtain rfl := Selection.predicate_of_nothing hown (hblank.2.2 own hown) hblank.2.1 hp
  exact canAsk_changes hblank hvalid hp hst

/-- With one blank condition, all rows are deleted. -/
theorem bulk_change_restricted_blank :
    let posts : Table := ⟨"posts", "id", false, none, none, none, []⟩
    let w : Writer := .ofSelection ((Selection.all .sqlite posts .standard).restrict "  " [])
    let op := delete ⟨⟨2024, 1, 1⟩, ⟨0, 0, 0, 0, none⟩⟩
    (w.Built ∧ op.isBulk = true) ∧
      (op.program w .null).CanAsk ⟨.write false, ⟨"DELETE FROM \"posts\"", []⟩, .null⟩ := by
  intro posts w op
  have hbuilt : w.Built := .restrict "  " [] (.start .sqlite posts .standard none .empty .null)
  have hblank : w.selection.OnlyBlank := by
    refine ⟨List.cons_ne_nil _ _, fun r hr => ?_, fun own hown => ?_⟩
    · rw [List.mem_singleton.mp hr]
      decide
    · cases hown
      rfl
  have hchange : op.Changes w w.selection.scope ⟨"DELETE FROM \"posts\"", []⟩ := by
    have htext : "DELETE FROM " ++ Dialect.sqlite.quote "posts" ++ "" = "DELETE FROM \"posts\"" := by decide
    rw [← htext]
    exact .delete
  exact ⟨⟨hbuilt, rfl⟩, (bulk_change_restricted hbuilt op rfl .null).2.2 .none _ hblank rfl rfl hchange⟩

end Operation
end TableQuery
