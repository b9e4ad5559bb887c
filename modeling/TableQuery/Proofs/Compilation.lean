import TableQuery.Proofs.Conjunction
import TableQuery.Proofs.Outcomes

/-! What compilation ends with. A condition that is left out restricts nothing, so the predicate of a group
    joins the tests of the other conditions, and the predicate of a selection is one conjunction. -/

namespace TableQuery

/-- A value passes for a name if it is the text of one. -/
theorem Value.asName_eq_ok {role name : String} {v : Value} :
    v.asName role = .ok name ↔ v = .text name ∧ TableQuery.isName name = true := by
  unfold asName
  constructor
  · intro h
    split at h
    · split at h
      · cases h
        exact ⟨rfl, ‹_›⟩
      · cases h
    · cases h
  · rintro ⟨rfl, hname⟩
    exact if_pos hname

/-- The test that a required field holds something. -/
def Dialect.holdsSomething (d : Dialect) (name : String) : Predicate := ⟨d.notBlank (d.quote name), []⟩

namespace Operator

/-- What a test has behind its column. -/
def tail : Operator → String
  | eq => " = ?" | ne => " != ?" | neAlt => " <> ?"
  | gt => " > ?" | gte => " >= ?" | lt => " < ?" | lte => " <= ?"
  | like | leftLike | rightLike => " LIKE ?"
  | notLike => " NOT LIKE ?"
  | isIn => " IN (?)" | notIn => " NOT IN (?)"
  | isNull => " IS NULL" | isNotNull => " IS NOT NULL"
  | between => " BETWEEN ? AND ?" | notBetween => " NOT BETWEEN ? AND ?"

/-- How many values a test binds. -/
def paramCount : Operator → Nat
  | isNull | isNotNull => 0
  | between | notBetween => 2
  | _ => 1

end Operator

namespace Compiler
variable {c : Compiler} {q : Query} {p : Predicate}

/-! ### Conditions -/

theorem ofQuery_eq_ok {α : Type} {r : Except QueryError α} {a : α} : ofQuery r = .ok a ↔ r = .ok a :=
  mapError_eq_ok

/-- A test is the column and what its operator has behind it; only a test for membership in nothing has
    neither. -/
theorem test_eq_ok {cond : Condition} (h : c.test cond = .ok p) :
    p = ⟨"1=0", []⟩ ∨ p = ⟨"1=1", []⟩ ∨
      p.sql = c.dialect.quote cond.field ++ cond.operator.tail ∧ p.params.length = cond.operator.paramCount := by
  have htail : ∀ rest : String, c.dialect.quote cond.field ++ " " ++ rest = c.dialect.quote cond.field ++ (" " ++ rest) :=
    fun _ => String.append_assoc
  have htail2 : ∀ keyword rest : String, c.dialect.quote cond.field ++ " " ++ keyword ++ rest =
      c.dialect.quote cond.field ++ (" " ++ keyword ++ rest) := fun keyword rest => by
    rw [htail, String.append_assoc, String.append_assoc]
  unfold test at h
  cases hop : cond.operator <;> simp only [hop] at h
  case isNull | isNotNull =>
    cases h
    exact Or.inr (Or.inr ⟨htail _, rfl⟩)
  case isIn =>
    -- One value counts as a sequence of its own.
    split at h <;> split at h <;> cases h
    · exact Or.inl rfl
    · exact Or.inr (Or.inr ⟨htail2 _ _, rfl⟩)
    · exact Or.inl rfl
    · exact Or.inr (Or.inr ⟨htail2 _ _, rfl⟩)
  case notIn =>
    split at h <;> split at h <;> cases h
    · exact Or.inr (Or.inl rfl)
    · exact Or.inr (Or.inr ⟨htail2 _ _, rfl⟩)
    · exact Or.inr (Or.inl rfl)
    · exact Or.inr (Or.inr ⟨htail2 _ _, rfl⟩)
  case between | notBetween =>
    obtain ⟨⟨low, high⟩, -, h⟩ := bind_eq_ok.mp h
    cases h
    exact Or.inr (Or.inr ⟨htail2 _ _, rfl⟩)
  all_goals
    cases h
    exact Or.inr (Or.inr ⟨htail2 _ _, rfl⟩)

/-! ### Groups and queries -/

/-- The tests of the conditions of a group that are not left out. -/
def fragments (c : Compiler) (g : Group) : Outcome (List Predicate) :=
  (g.conditions.filter fun cond => !c.isSkipped cond).mapM c.test

theorem condition_eq_ok {cond : Condition} (h : c.condition cond = .ok p) :
    isName cond.field = true ∧
      (c.isSkipped cond = true ∧ p = .none ∨ c.isSkipped cond = false ∧ c.test cond = .ok p) := by
  obtain ⟨name, hname, h⟩ := bind_eq_ok.mp h
  obtain ⟨⟨⟩, hfield⟩ := Value.asName_eq_ok.mp (ofQuery_eq_ok.mp hname)
  refine ⟨hfield, ?_⟩
  cases hskip : c.isSkipped cond
  · rw [hskip] at h
    exact Or.inr ⟨rfl, h⟩
  · rw [hskip] at h
    cases h
    exact Or.inl ⟨rfl, rfl⟩

theorem conditions_eq_ok {conds : List Condition} {tests : List Predicate}
    (h : List.Forall₂ (fun cond p => c.condition cond = .ok p) conds tests) :
    (∀ cond ∈ conds, isName cond.field = true) ∧
      ∃ fs, (conds.filter fun cond => !c.isSkipped cond).mapM c.test = .ok fs ∧
        Predicate.kept tests = Predicate.kept fs := by
  induction h with
  | nil => exact ⟨fun _ hc => (nomatch hc), [], rfl, rfl⟩
  | @cons cond p conds tests hp _ ih =>
    obtain ⟨hnames, fs, hfs, hkept⟩ := ih
    obtain ⟨hname, ⟨hskip, rfl⟩ | ⟨hskip, htest⟩⟩ := condition_eq_ok hp
    · refine ⟨List.forall_mem_cons.mpr ⟨hname, hnames⟩, fs, ?_, ?_⟩
      · rwa [List.filter_cons_of_neg (by simp [hskip])]
      · rwa [Predicate.kept_cons_none rfl]
    · refine ⟨List.forall_mem_cons.mpr ⟨hname, hnames⟩, p :: fs, ?_, ?_⟩
      · rw [List.filter_cons_of_pos (by simp [hskip])]
        exact mapM_eq_ok.mpr (.cons htest (mapM_eq_ok.mp hfs))
      · rw [← List.singleton_append, ← List.singleton_append (l := fs), Predicate.kept_append,
          Predicate.kept_append, hkept]

/-- The predicate of a group joins the tests of the conditions that are not left out. -/
theorem group_eq_ok {g : Group} (h : c.group g = .ok p) :
    (∀ cond ∈ g.conditions, isName cond.field = true) ∧
      ∃ fs, c.fragments g = .ok fs ∧ p = (Predicate.join fs g.connective.spelling).grouped := by
  obtain ⟨tests, htests, h⟩ := bind_eq_ok.mp h
  cases h
  obtain ⟨hnames, fs, hfs, hkept⟩ := conditions_eq_ok (mapM_eq_ok.mp htests)
  exact ⟨hnames, fs, hfs, by rw [Predicate.join_congr hkept]⟩

/-- The predicate of a query is the conjunction of its groups and of the tests of its required fields. -/
theorem predicate_eq_ok (h : c.predicate q = .ok p) : ∃ groups columns,
    List.Forall₂ (fun g p => c.group g = .ok p) q.search groups ∧
      Value.asNames "required field" q.required = .ok columns ∧
      p = Predicate.all (groups ++ columns.map c.dialect.holdsSomething) := by
  obtain ⟨-, -, h⟩ := bind_eq_ok.mp h
  obtain ⟨search, hsearch, h⟩ := bind_eq_ok.mp h
  obtain ⟨required, hrequired, h⟩ := bind_eq_ok.mp h
  obtain ⟨groups, hgroups, hs⟩ := bind_eq_ok.mp hsearch
  obtain ⟨columns, hcolumns, hr⟩ := bind_eq_ok.mp hrequired
  cases h
  cases hs
  cases hr
  refine ⟨groups, columns, mapM_eq_ok.mp hgroups, ofQuery_eq_ok.mp hcolumns, ?_⟩
  rw [Predicate.all_cons_all, Predicate.all_append_all, List.append_nil]
  rfl

end Compiler

namespace Selection
variable {s : Selection} {q : Query} {p : Predicate}

/-- A predicate is the conjunction of all that restricts the rows of a query: its groups, the tests of its
    required fields, the conditions in statement text, and the test for rows that are not stamped as
    deleted. -/
def Conjoins (s : Selection) (q : Query) (p : Predicate) : Prop := ∃ groups columns,
  List.Forall₂ (fun g p => s.compiler.group g = .ok p) q.search groups ∧
    Value.asNames "required field" q.required = .ok columns ∧
    p = Predicate.all (groups ++ (columns.map s.dialect.holdsSomething ++ (s.raw ++ [s.scope])))

theorem predicate_eq_ok (h : s.predicate q = .ok p) : s.Conjoins q p := by
  obtain ⟨own, hown, h⟩ := bind_eq_ok.mp h
  obtain ⟨groups, columns, hgroups, hcolumns, rfl⟩ := Compiler.predicate_eq_ok hown
  cases h
  refine ⟨groups, columns, hgroups, hcolumns, ?_⟩
  rw [List.cons_append, Predicate.all_cons_all, List.append_assoc]
  rfl

end Selection
end TableQuery
