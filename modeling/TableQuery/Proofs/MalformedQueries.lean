import TableQuery.Proofs.Compilation
import TableQuery.Proofs.Operations
import TableQuery.Proofs.Outcomes
import TableQuery.Proofs.RelationPaths
import TableQuery.Store.Script

/-! Malformed queries. An operation checks the whole of its query before it asks anything, also the parts that it
    does not use, so that with a malformed query nothing reaches the store. -/

namespace TableQuery

/-- Text of ASCII letters, digits, underscores and dots, of which there is one at least. -/
def Value.IsIdentifier (v : Value) : Prop :=
  ∃ s, v = .text s ∧ s ≠ "" ∧ ∀ c ∈ s.toList, c.isAlphanum = true ∨ c = '_' ∨ c = '.'

/-- Text that falls into identifiers when it is cut at its dots. -/
def Value.IsPath (v : Value) : Prop :=
  ∃ s, v = .text s ∧ ∀ segment ∈ cutText '.' s, (Value.text segment).IsIdentifier

/-- What makes a query malformed, wherever it stands: conditions count that are left out for want of something to
    search for. -/
inductive Query.Malformed (q : Query) : Prop
  | filter {v : Value} : v ∈ q.filter → ¬ v.IsIdentifier → Malformed q
  | required {v : Value} : v ∈ q.required → ¬ v.IsIdentifier → Malformed q
  | search {g : Group} {cond : Condition} : g ∈ q.search → cond ∈ g.conditions →
    ¬ (Value.text cond.field).IsIdentifier → Malformed q
  | order {o : OrderBy} : o ∈ q.orderBy → ¬ o.field.IsIdentifier → Malformed q
  | path {v : Value} : v ∈ q.relations → ¬ v.IsPath → Malformed q
  | missing {v : Value} : v ∈ q.required → (∀ g ∈ q.search, ∀ cond ∈ g.conditions, v ≠ .text cond.field) →
    Malformed q

namespace Compiler
variable {q : Query}

theorem isIdentifier_of_isName {s : String} (h : isName s = true) : (Value.text s).IsIdentifier := by
  obtain ⟨hne, hchars⟩ := (Bool.and_eq_true _ _).mp h
  refine ⟨s, rfl, fun hempty => ?_, fun c hc => ?_⟩
  · rw [hempty] at hne
    exact absurd hne (by decide)
  · have := List.all_eq_true.mp hchars c hc
    simpa [isNameChar, or_assoc] using this

theorem isIdentifier_of_asName {role name : String} {v : Value} (h : v.asName role = .ok name) : v.IsIdentifier := by
  obtain ⟨rfl, hname⟩ := Value.asName_eq_ok.mp h
  exact isIdentifier_of_isName hname

theorem isPath_of_asIncludePath {v : Value} {path : String} (h : v.asIncludePath = .ok path) : v.IsPath := by
  unfold Value.asIncludePath at h
  split at h
  · rename_i s
    split at h
    · rename_i hpath
      obtain ⟨-, hsegments⟩ := (Bool.and_eq_true _ _).mp hpath
      exact ⟨s, rfl, fun segment hseg => isIdentifier_of_isName (List.all_eq_true.mp hsegments segment hseg)⟩
    · cases h
  · cases h

/-- A check of names passes only if each of them is an identifier. -/
theorem isIdentifier_of_checkNames {role : String} {vs : List Value} (h : checkNames role vs = .ok ()) :
    ∀ v ∈ vs, v.IsIdentifier := by
  intro v hv
  have hname := forM_eq_ok.mp (ofQuery_eq_ok.mp h) v hv
  cases hname' : v.asName role with
  | ok name => exact isIdentifier_of_asName hname'
  | error e =>
    rw [hname'] at hname
    cases hname

/-- Each required field is tested by a condition. -/
theorem mem_searchFields_of_checkRequired (h : checkRequired q = .ok ()) :
    ∀ v ∈ q.required, ∃ s ∈ q.searchFields, v = .text s := by
  intro v hv
  have hone := forM_eq_ok.mp h v hv
  split at hone
  · rename_i s
    split at hone
    · rename_i hs
      exact ⟨s, List.contains_iff_mem.mp hs, rfl⟩
    · cases hone
  · cases hone
  · obtain ⟨_, -, hone⟩ := bind_eq_ok.mp hone
    cases hone

theorem mem_searchFields {s : String} :
    s ∈ q.searchFields ↔ ∃ g ∈ q.search, ∃ cond ∈ g.conditions, cond.field = s := by
  simp [Query.searchFields, Group.fields]

/-- A query that passes the check is not malformed. -/
theorem not_malformed_of_validate (h : validate q = .ok ()) : ¬ q.Malformed := by
  obtain ⟨_, hpresent, h⟩ := bind_eq_ok.mp h
  obtain ⟨_, hfilter, h⟩ := bind_eq_ok.mp h
  obtain ⟨_, hrequired, h⟩ := bind_eq_ok.mp h
  obtain ⟨_, hsearch, h⟩ := bind_eq_ok.mp h
  obtain ⟨_, horder, hpaths⟩ := bind_eq_ok.mp h
  intro hbad
  cases hbad with
  | filter hv hname => exact hname (isIdentifier_of_checkNames hfilter _ hv)
  | required hv hname => exact hname (isIdentifier_of_checkNames hrequired _ hv)
  | search hg hcond hname =>
    refine hname (isIdentifier_of_checkNames hsearch _ (List.mem_map_of_mem ?_))
    exact mem_searchFields.mpr ⟨_, hg, _, hcond, rfl⟩
  | order ho hname => exact hname (isIdentifier_of_checkNames horder _ (List.mem_map_of_mem ho))
  | @path v hv hpath =>
    have hone := forM_eq_ok.mp (ofQuery_eq_ok.mp hpaths) v hv
    cases hpath' : v.asIncludePath with
    | ok path => exact hpath (isPath_of_asIncludePath hpath')
    | error e =>
      rw [hpath'] at hone
      cases hone
  | missing hv hnone =>
    obtain ⟨s, hs, rfl⟩ := mem_searchFields_of_checkRequired hpresent _ hv
    obtain ⟨g, hg, cond, hcond, rfl⟩ := mem_searchFields.mp hs
    exact hnone g hg cond hcond rfl

end Compiler

namespace Selection
variable {s : Selection} {q : Query}

/-- A query that cannot be prepared for reading. -/
def Unprepared (s : Selection) (q : Query) : Prop := ∀ preloads, s.prepare q ≠ .ok preloads

/-- What is prepared for reading is neither malformed, nor does one of its paths lose its way. -/
theorem sound_of_prepare {preloads : List Preload} (h : s.prepare q = .ok preloads) :
    ¬ q.Malformed ∧ ∀ path, .text path ∈ q.relations → ¬ s.table.LosesPath (cutText '.' path) := by
  obtain ⟨_, hvalid, h⟩ := bind_eq_ok.mp h
  have hpaths := Compiler.ofQuery_eq_ok.mp h
  exact ⟨Compiler.not_malformed_of_validate hvalid, fun _ => Preload.not_losesPath_of_ofPaths hpaths⟩

end Selection

namespace Program
variable {α β : Type}

/-- The program fails before it asks or draws anything. -/
def Refuses (p : Program α) : Prop := ∃ f, p = .fail f

theorem Refuses.bind {p : Program α} {k : α → Program β} (h : p.Refuses) : (p >>= k).Refuses := by
  obtain ⟨f, rfl⟩ := h
  exact ⟨f, rfl⟩

/-- What is computed without statements may be taken to have gone well. -/
theorem refuses_lift_bind {r : Outcome α} {k : α → Program β} (h : ∀ a, r = .ok a → (k a).Refuses) :
    (lift r >>= k).Refuses := by
  cases r with
  | ok a => exact h a rfl
  | error f => exact ⟨f, rfl⟩

theorem Refuses.run {p : Program α} (h : p.Refuses) (st : Store) (script : Script) :
    ∃ f, st.run p script = ⟨.error f, [], script⟩ := by
  obtain ⟨f, rfl⟩ := h
  exact ⟨f, rfl⟩

end Program

namespace Operation
open Program

def isRead : Operation → Bool
  | get | page | first | find _ | count | sum _ | average _ | exist | existsById _ => true
  | _ => false

/-- The query that an operation runs. A creation runs none of its caller's. -/
def Runs (w : Writer) (q : Query) : Operation → Prop
  | find id | existsById id | updateById _ id _ => w.selection.queryById id = .ok q
  | deleteById _ id extra => w.selection.deletionQuery id extra = .ok q
  | create .. => False
  | _ => w.selection.query = q

/-- The column that an operation aggregates. -/
def aggregated? : Operation → Option Value
  | sum field | average field => some field
  | _ => none

/-- What is wrong with an operation, for its query or for the column that it aggregates. Only what reads follows
    the relations of the table. -/
inductive Faulty (w : Writer) (q : Query) : Operation → Prop
  | query {op : Operation} : q.Malformed → Faulty w q op
  | relation {op : Operation} {path : String} : op.isRead = true → .text path ∈ q.relations →
    w.selection.table.LosesPath (cutText '.' path) → Faulty w q op
  | column {op : Operation} {field : Value} : op.aggregated? = some field → ¬ field.IsIdentifier → Faulty w q op

section
variable {s : Selection} {w : Writer} {q : Query} {op : Operation} {timeout : Value}

theorem Faulty.unprepared_or (h : op.Faulty w q) :
    w.selection.Unprepared q ∨ ∃ field, op.aggregated? = some field ∧ ¬ field.IsIdentifier := by
  cases h with
  | query hbad => exact .inl fun _ hok => (Selection.sound_of_prepare hok).1 hbad
  | relation _ hpath hlost => exact .inl fun _ hok => (Selection.sound_of_prepare hok).2 _ hpath hlost
  | column hop hfield => exact .inr ⟨_, hop, hfield⟩

theorem Faulty.unprepared (h : op.Faulty w q) (hop : op.aggregated? = none) : w.selection.Unprepared q := by
  obtain h | ⟨field, hfield, -⟩ := h.unprepared_or
  · exact h
  · rw [hop] at hfield
    cases hfield

theorem Faulty.not_validate (h : op.Faulty w q) (hread : op.isRead = false) : Compiler.validate q ≠ .ok () := by
  cases h with
  | query hbad => exact fun hok => Compiler.not_malformed_of_validate hok hbad
  | relation hread' => exact absurd (hread.symm.trans hread') (by decide)
  | column hop =>
    cases op with
    | sum field | average field => cases hread
    | _ => cases hop

/-! ### Reading -/

theorem refuses_first (h : s.Unprepared s.query) : (s.first timeout).Refuses :=
  refuses_lift_bind fun _ hok => absurd hok (h _)

theorem refuses_countWithin (h : s.Unprepared s.query) : (s.countWithin timeout).Refuses := by
  refine refuses_lift_bind fun statement hok => ?_
  obtain ⟨preloads, hprepare, -⟩ := bind_eq_ok.mp hok
  exact absurd hprepare (h preloads)

theorem refuses_aggregate {function : String} {field : Value} (h : s.Unprepared s.query ∨ ¬ field.IsIdentifier) :
    (s.aggregate function field timeout).Refuses := by
  refine refuses_lift_bind fun statement hok => refuses_lift_bind fun column hcolumn => ?_
  rcases h with h | h
  · obtain ⟨preloads, hprepare, -⟩ := bind_eq_ok.mp hok
    exact absurd hprepare (h preloads)
  · exact absurd (Compiler.isIdentifier_of_asName (Compiler.ofQuery_eq_ok.mp hcolumn)) h

theorem refuses_reading (hread : op.isRead = true) (hq : op.Runs w q) (h : op.Faulty w q) :
    (op.program w timeout).Refuses := by
  cases op with
  | get | page =>
    cases hq
    exact Refuses.bind (refuses_lift_bind fun _ hok => absurd hok (h.unprepared rfl _))
  | first =>
    cases hq
    exact Refuses.bind (refuses_first (h.unprepared rfl))
  | find id =>
    refine Refuses.bind (refuses_lift_bind fun q' hq' => ?_)
    obtain rfl : q = q' := Except.ok.inj (hq.symm.trans (Compiler.ofQuery_eq_ok.mp hq'))
    exact refuses_first (s := w.selection.withQuery q) (h.unprepared rfl)
  | count =>
    cases hq
    exact Refuses.bind (refuses_countWithin (h.unprepared rfl))
  | sum field | average field =>
    cases hq
    refine Refuses.bind (Refuses.bind (refuses_aggregate (h.unprepared_or.imp_right ?_)))
    rintro ⟨_, ⟨⟩, hfield⟩
    exact hfield
  | exist =>
    cases hq
    exact Refuses.bind (Refuses.bind (refuses_countWithin (h.unprepared rfl)))
  | existsById id =>
    refine Refuses.bind (refuses_lift_bind fun q' hq' => ?_)
    obtain rfl : q = q' := Except.ok.inj (hq.symm.trans (Compiler.ofQuery_eq_ok.mp hq'))
    exact Refuses.bind (refuses_countWithin (s := w.selection.withQuery q) (h.unprepared rfl))
  | _ => cases hread

/-! ### Writing -/

theorem refuses_writing (hread : op.isRead = false) (hq : op.Runs w q) (h : op.Faulty w q) :
    (op.program w timeout).Refuses := by
  have hbad := h.not_validate hread
  cases op with
  | update now record =>
    cases hq
    exact Refuses.bind (refuses_lift_bind fun _ hok => absurd hok hbad)
  | updateById now id record =>
    refine Refuses.bind (refuses_lift_bind fun q' hq' => refuses_lift_bind fun _ hok => ?_)
    obtain rfl : q = q' := Except.ok.inj (hq.symm.trans (Compiler.ofQuery_eq_ok.mp hq'))
    exact absurd hok hbad
  | delete now =>
    cases hq
    exact Refuses.bind (refuses_lift_bind fun _ hok => absurd hok hbad)
  | deleteById now id extra =>
    refine Refuses.bind (refuses_lift_bind fun q' hq' => refuses_lift_bind fun _ hok => ?_)
    obtain rfl : q = q' := Except.ok.inj (hq.symm.trans (Compiler.ofQuery_eq_ok.mp hq'))
    exact absurd hok hbad
  | create now record => exact hq.elim
  | _ => cases hread

/-- With a faulty query, or a faulty column to aggregate, an operation fails whatever the store would answer, and
    sends no statement. -/
theorem faulty_sends_nothing (w : Writer) (op : Operation) (timeout : Value) (q : Query) (hq : op.Runs w q)
    (h : op.Faulty w q) (st : Store) (script : Script) :
    ∃ f, st.run (op.program w timeout) script = ⟨.error f, [], script⟩ := by
  refine Refuses.run ?_ st script
  cases hread : op.isRead with
  | true => exact refuses_reading hread hq h
  | false => exact refuses_writing hread hq h

end

/-- An update by key under a condition that is left out, whose field is no name. -/
theorem faulty_sends_nothing_skipped :
    let posts : Table := ⟨"posts", "id", false, none, none, none, []⟩
    let skipped : Condition := ⟨"title; --", .text "", .eq⟩
    let s : Selection := (Selection.all .sqlite posts .standard).withQuery
      (Query.empty.withSearch [⟨[skipped], .or⟩])
    let op := updateById ⟨⟨2024, 1, 1⟩, ⟨0, 0, 0, 0, none⟩⟩ (.int 1) (.dict [("title", .text "new")])
    let q := s.query.withSearch [⟨[⟨"id", .int 1, .eq⟩], .and⟩]
    (op.Runs (.ofSelection s) q ∧ op.Faulty (.ofSelection s) q ∧ s.compiler.isSkipped skipped = true) ∧
      ∀ (st : Store) (script : Script), ∃ f,
        st.run (op.program (.ofSelection s) .null) script = ⟨.error f, [], script⟩ := by
  intro posts skipped s op q
  have hq : op.Runs (.ofSelection s) q := rfl
  have hbad : op.Faulty (.ofSelection s) q := by
    refine .query (.search (g := ⟨[skipped], .or⟩) (List.mem_cons_self) List.mem_cons_self ?_)
    rintro ⟨_, ⟨⟩, -, hchars⟩
    exact absurd (hchars ';' (by decide)) (by decide)
  exact ⟨⟨hq, hbad, by decide⟩, faulty_sends_nothing _ op .null q hq hbad⟩

end Operation
end TableQuery
