import TableQuery.Proofs.CheckedChanges
import TableQuery.Proofs.RuleChecks

/-! Rules and updates of a whole selection. Before such an update changes rows, every rule that the written columns
    fill was probed outside of the selection. A rule of which only some fields are written is not probed, whatever
    the rows hold in the others. -/

namespace TableQuery
open Program

/-- A statement counts rows with given values in given columns, of which there may be more conditions. -/
def Statement.Compares (w : Writer) (pairs : List (String × Value)) (st : Statement) : Prop :=
  ∃ restriction : Predicate, st.sql = "SELECT COUNT(*) FROM " ++ w.selection.dialect.quote w.selection.table.name ++
      " WHERE " ++ restriction.sql ∧ st.params = restriction.params ∧
    ∀ column v, (column, v) ∈ pairs → restriction.HasPart ⟨w.selection.dialect.quote column ++ " = ?", [v]⟩

namespace Writer

/-- What a row to write has in the fields of rules. -/
def writes (w : Writer) (row : Row) : String → Option Value := w.uniqueness.lookup? (.dict row)

/-- The rules that a row to write fills. -/
def filledRules (w : Writer) (row : Row) : List UniqueRule := w.rules.filter fun rule => rule.FilledBy (w.writes row)

section
variable (w : Writer) (row : Row) (p : Predicate) (limit : Value)

/-- A rule was probed with the values of a row outside of a predicate, and no row was found. -/
def Probed (rule : UniqueRule) (e : Exchange) : Prop := ∃ (v : Value) (n : Int),
  e = .answered ⟨.value, w.uniqueness.probe (w.uniqueness.columnValues (.dict row) rule) .null p, limit⟩ v ∧
    v.toCount = .ok n ∧ n ≤ 0

/-- What went before an update of the rows of a predicate: nothing where the row fills no rule, and else the probes
    of the filled rules, in order, and the count of the rows. -/
inductive ProbedFirst : List Exchange → Prop
  | unfilled : w.filledRules row = [] → ProbedFirst []
  | filled {probes : List Exchange} {v : Value} {n : Int} : w.filledRules row ≠ [] →
    List.Forall₂ (w.Probed row p limit) (w.filledRules row) probes → v.toCount = .ok n → n ≤ 1 →
    ProbedFirst (probes ++ [.answered ⟨.value, w.counting p, limit⟩ v])

end

variable {w : Writer} {row : Row} {p : Predicate} {limit : Value} {past : List Exchange} {rule : UniqueRule}

theorem enforced_written (w : Writer) (row : Row) : w.uniqueness.enforced (.dict row) =
    (w.filledRules row).map fun rule => (rule, w.uniqueness.columnValues (.dict row) rule) :=
  w.uniqueness.enforced_eq (.dict row)

theorem Targets.probedFirst (h : w.Targets row p limit past) : w.ProbedFirst row p limit past := by
  have henforced := w.enforced_written row
  cases h with
  | unruled hnone =>
    rw [henforced, List.map_eq_nil_iff] at hnone
    exact .unfilled hnone
  | ruled hsome hpasses hn hmany =>
    rw [henforced] at hsome hpasses
    have hprobes := List.forall₂_map_left_iff.mp hpasses
    exact .filled (fun hnil => hsome (List.map_eq_nil_iff.mpr hnil)) hprobes hn hmany

theorem ProbedFirst.exists_mem (h : w.ProbedFirst row p limit past) (hrule : rule ∈ w.filledRules row) :
    ∃ e ∈ past, w.Probed row p limit rule e := by
  cases h with
  | unfilled hnone =>
    rw [hnone] at hrule
    cases hrule
  | @filled probes v n hsome hprobes hn hmany =>
    obtain ⟨e, he, hprobed⟩ := forall₂_mem_right hprobes.flip rule hrule
    exact ⟨e, List.mem_append_left _ he, hprobed⟩

theorem compares_probe (pairs : List (String × Value)) (id : Value) (p : Predicate) :
    (w.uniqueness.probe pairs id p).Compares w pairs := by
  refine ⟨_, rfl, rfl, fun column v hpair => ?_⟩
  have hpart : Uniqueness.equals w.selection.dialect column v ∈
      pairs.map fun pair => Uniqueness.equals w.selection.dialect pair.1 pair.2 :=
    List.mem_map.mpr ⟨(column, v), hpair, rfl⟩
  refine Predicate.hasPart_of_mem (List.mem_append_left _ hpart) ?_
  simp [Predicate.isNone]

theorem checkTargets_unfilled (h : w.filledRules row = []) : w.checkTargets row p limit = .done () := by
  have hnone : w.uniqueness.enforced (.dict row) = [] := by
    rw [enforced_written, h]
    rfl
  unfold checkTargets
  rw [hnone]

/-- An update of a selection probes each rule that it has to do with and whose written fields are not zero, provided
    that it writes all of its fields: of a rule that is written in part nothing is asked. If every rule has a field
    that is not written, then the update is the first thing that is asked. -/
theorem filled_rules_probed (w : Writer) (now : Instant) (record timeout : Value) :
    (w.update now record timeout).Along (fun past r => r.Reads ∨ ∃ row p,
        w.updatedColumns now record = .ok row ∧ w.selection.predicate w.selection.query = .ok p ∧
        r.statement = w.updating row p ∧ w.ProbedFirst row p (w.selection.callTimeout timeout) past ∧
        ∀ rule ∈ w.rules, (∀ field ∈ rule.fields, ∀ v ∈ w.writes row field, v.isZero = false) →
          (∀ field ∈ rule.fields, (w.writes row field).isSome = true) →
          ∃ v, .answered ⟨.value, w.uniqueness.probe (w.uniqueness.columnValues (.dict row) rule) .null p,
              w.selection.callTimeout timeout⟩ v ∈ past ∧
            (w.uniqueness.probe (w.uniqueness.columnValues (.dict row) rule) .null p).Compares w
              (w.uniqueness.columnValues (.dict row) rule))
      (fun _ _ => True) [] ∧
    ∀ row p, Compiler.validate w.selection.query = .ok () →
      w.selection.checkRestricted (.unrestrictedUpdate w.selection.table.name) = .ok () →
      w.updatedColumns now record = .ok row → row.isEmpty = false →
      w.selection.predicate w.selection.query = .ok p →
      (∀ rule ∈ w.rules, ∃ field ∈ rule.fields, w.writes row field = none) →
      ∃ next, w.update now record timeout =
        .ask ⟨.write false, w.updating row p, w.selection.callTimeout timeout⟩ next := by
  constructor
  · refine (Operation.course_update now record).along.mono_asked fun past r h => ?_
    rcases h with hreads | ⟨-, hready⟩
    · exact .inl hreads
    obtain ⟨kind, st, limit⟩ := r
    cases hready with
    | @update _ _ row p _ hp hrow _ htargets =>
      have hprobed := htargets.probedFirst
      refine .inr ⟨row, p, hrow, hp, rfl, hprobed, fun rule hrule hnonzero hwritten => ?_⟩
      have hfilled : rule.FilledBy (w.writes row) := by
        intro field hfield
        obtain ⟨v, hv⟩ := Option.isSome_iff_exists.mp (hwritten field hfield)
        exact ⟨v, hv, hnonzero field hfield v hv⟩
      obtain ⟨e, he, v, n, rfl, -⟩ := hprobed.exists_mem (List.mem_filter.mpr ⟨hrule, decide_eq_true hfilled⟩)
      exact ⟨v, he, compares_probe _ _ _⟩
  · intro row p hvalid hcheck hrow hfull hp hpartly
    have hunfilled : w.filledRules row = [] := by
      refine List.filter_eq_nil_iff.mpr fun rule hrule hfilled => ?_
      obtain ⟨field, hfield, hnone⟩ := hpartly rule hrule
      obtain ⟨v, hv, -⟩ := of_decide_eq_true hfilled field hfield
      rw [hnone] at hv
      cases hv
    -- With no rule to enforce, the rows of the selection are not even counted.
    unfold update
    dsimp only
    rw [hvalid, hcheck, hrow]
    show ∃ next, (if row.isEmpty then _ else _) = _
    rw [hfull, hp]
    show ∃ next, (w.checkTargets row p (w.selection.callTimeout timeout) >>= fun _ =>
      w.runUpdate row p (w.selection.callTimeout timeout)) = _
    rw [checkTargets_unfilled hunfilled]
    exact ⟨_, rfl⟩

/-- A membership whose organisation is replaced, with a rule for organisation and member together. -/
theorem filled_rules_probed_memberships :
    let memberships : Table := ⟨"memberships", "id", false, none, none, none, []⟩
    let w : Writer := ⟨(Selection.all .sqlite memberships .standard).restrict "id = ?" [.int 1], .everything,
      [⟨["org", "member"]⟩]⟩
    let now : Instant := ⟨⟨2024, 1, 1⟩, ⟨0, 0, 0, 0, none⟩⟩
    let record : Value := .dict [("org", .text "a")]
    (w.updatedColumns now record = .ok [("org", .text "a")] ∧
      (∀ rule ∈ w.rules, ∃ field ∈ rule.fields, w.writes [("org", .text "a")] field = none)) ∧
      ∃ next, w.update now record .null =
        .ask ⟨.write false, ⟨"UPDATE \"memberships\" SET \"org\" = ? WHERE (id = ?)", [.text "a", .int 1]⟩, .null⟩ next := by
  intro memberships w now record
  have hpartly : ∀ rule ∈ w.rules, ∃ field ∈ rule.fields, w.writes [("org", .text "a")] field = none := by
    intro rule hrule
    obtain rfl := List.mem_singleton.mp hrule
    exact ⟨"member", by decide, rfl⟩
  have hsql : (w.updating [("org", .text "a")] ⟨"(id = ?)", [.int 1]⟩).sql =
      "UPDATE \"memberships\" SET \"org\" = ? WHERE (id = ?)" := by decide +kernel
  refine ⟨⟨rfl, hpartly⟩, ?_⟩
  rw [← hsql]
  exact (filled_rules_probed w now record .null).2 [("org", .text "a")] ⟨"(id = ?)", [.int 1]⟩ rfl rfl rfl rfl rfl hpartly

end Writer
end TableQuery
