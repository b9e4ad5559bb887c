import TableQuery.Proofs.RelationPaths
import TableQuery.Proofs.Rows

/-! Rows joined with the rows that belong to them. The join is given at once, row by row and from what was found for
    each relation of a tree; it knows nothing of the order in which relations are loaded. -/

namespace TableQuery

/-! ### Keys -/

theorem Clock.same_comm (a b : Clock) : a.same b = b.same a := by
  unfold Clock.same
  rw [Bool.beq_comm, Bool.beq_comm (a := a.sinceMidnight)]

theorem Instant.same_comm (a b : Instant) : a.same b = b.same a := by
  unfold Instant.same
  rw [Bool.beq_comm, Bool.beq_comm (a := a.sinceEpoch)]

namespace Value
variable {a b : Value}

/-- A value that can be looked up: a single value other than a signaling not-a-number. -/
def IsKey (v : Value) : Prop := v.isScalar = true ∧ v.keyFault? = none

theorem sameNumber_comm (a b : Value) : a.sameNumber b = b.sameNumber a := by
  unfold sameNumber
  cases Quantity.ofValue? a with
  | some p => cases Quantity.ofValue? b with
    | some q => exact Bool.beq_comm
    | none => rfl
  | none => cases Quantity.ofValue? b with
    | some q => rfl
    | none => cases infiniteSign? a <;> cases infiniteSign? b <;> simp [Bool.beq_comm]

/-- Only numbers are the same number as something. -/
theorem number_of_sameNumber (h : a.sameNumber b = true) :
    (Quantity.ofValue? a).isSome = true ∨ (infiniteSign? a).isSome = true := by
  unfold sameNumber at h
  cases hq : Quantity.ofValue? a with
  | some q => exact .inl rfl
  | none =>
    cases hs : infiniteSign? a with
    | some s => exact .inr rfl
    | none =>
      rw [hq, hs] at h
      split at h <;> simp_all

theorem isKey_of_sameNumber (h : a.sameNumber b = true) : a.IsKey := by
  cases a with
  | bool | int | double => exact ⟨rfl, rfl⟩
  | decimal d =>
    cases d with
    | finite | infinite => exact ⟨rfl, rfl⟩
    | nan => rcases number_of_sameNumber h with h | h <;> cases h
  | _ => rcases number_of_sameNumber h with h | h <;> cases h

/-- What is the same as a single value can be looked up. -/
theorem isKey_of_same (h : a.same b = true) (hb : b.isScalar = true) : a.IsKey := by
  unfold same at h
  split at h
  all_goals first | exact ⟨rfl, rfl⟩ | cases hb | exact isKey_of_sameNumber h

theorem same_of_sameNumber (h : a.sameNumber b = true) : a.same b = true := by
  cases a with
  | bool | int | double | decimal => cases b <;> exact h
  | _ => rcases number_of_sameNumber h with h | h <;> cases h

/-- A single value is the same as what is the same as it. -/
theorem same_symm (h : a.same b = true) (hb : b.isScalar = true) : b.same a = true := by
  unfold same at h
  split at h
  case h_1 => rfl
  case h_2 | h_3 | h_4 | h_7 =>
    rw [same, Bool.beq_comm]
    exact h
  case h_5 =>
    rw [same, Clock.same_comm]
    exact h
  case h_6 =>
    rw [same, Instant.same_comm]
    exact h
  -- What is left are containers, which are no single values, and numbers.
  all_goals first | exact same_of_sameNumber (sameNumber_comm _ _ ▸ h) | cases hb

theorem eq_null_of_isNull (h : a.isNull = true) : a = .null := by
  cases a with
  | null => rfl
  | _ => cases h

theorem isNull_of_null_same (h : null.same a = true) : a.isNull = true := by
  unfold same at h
  split at h
  case h_1 => rfl
  all_goals first | contradiction | (rcases number_of_sameNumber h with h | h <;> cases h)

end Value

/-! ### Rows that belong to rows -/

/-- What a row holds of rows that belong to it: all of them, or the first or null. -/
def Link.holding (link : Link) (mine : List Row) : Value :=
  if link.many then .list (mine.map .dict)
  else match mine with
    | row :: _ => .dict row
    | [] => .null

/-- What was found for a relation: rows, and what was found for the relations below it. -/
inductive Findings
  | node (rows : List Row) (below : List Findings)

def Findings.rows : Findings → List Row
  | node rows _ => rows

def Findings.beneath : Findings → List Findings
  | node _ below => below

/-- The rows of what was found that belong to a row. -/
def Link.belonging (link : Link) (row : Row) (found : List Row) : List Row :=
  found.filter fun child => (row.getD link.localKey).same (child.getD link.remoteKey)

namespace Preload

/-! ### Trees -/

/-- The names of nodes. -/
def names (nodes : List Preload) : List String := nodes.map fun n => n.link.name

/-- Trees whose nodes differ by name from their siblings. -/
inductive Distinct : List Preload → Prop
  | mk {nodes : List Preload} : (names nodes).Nodup → (∀ n ∈ nodes, Distinct n.children) → Distinct nodes

/-- Trees in which no relation has the name of a column that rows are joined by. -/
def Apart (nodes : List Preload) : Prop := ∀ m ∈ nodes, ∀ n ∈ nodes, ∀ {link target link' target'},
  m.Has link target → n.Has link' target' → link.name ≠ link'.localKey ∧ link.name ≠ link'.remoteKey

/-- The columns by which rows are joined with the rows of nodes hold keys. -/
def Keyed (nodes : List Preload) (rows : List Row) : Prop :=
  ∀ n ∈ nodes, ∀ row ∈ rows, (row.getD n.link.localKey).IsKey

theorem cutAtName_eq_none {name : String} : ∀ {nodes : List Preload}, cutAtName name nodes = none →
    name ∉ names nodes
  | [], _ => List.not_mem_nil
  | n :: ns, h => by
    unfold cutAtName at h
    split at h
    · cases h
    · rename_i hne
      have hrest := cutAtName_eq_none (Option.map_eq_none_iff.mp h)
      exact List.not_mem_cons_of_ne_of_not_mem (Ne.symm hne) hrest

theorem distinct_nil : Distinct [] := ⟨List.nodup_nil (α := String), List.forall_mem_nil _⟩

theorem distinct_insert : ∀ {path : List String} {t : Table} {nodes nodes' : List Preload},
    Distinct nodes → insert t path nodes = .ok nodes' → Distinct nodes'
  | [], _, _, _, hnodes, h => by
    cases h
    exact hnodes
  | name :: rest, t, nodes, nodes', ⟨hnames, hchildren⟩, h => by
    unfold insert at h
    split at h
    · rename_i before link target children after hcut
      obtain ⟨rfl, -⟩ := cutAtName_eq_some hcut
      obtain ⟨children', hinsert, h⟩ := bind_eq_ok.mp h
      cases h
      obtain ⟨hbefore, hafter⟩ := List.forall_mem_append.mp hchildren
      obtain ⟨hnode, hafter⟩ := List.forall_mem_cons.mp hafter
      refine ⟨?_, List.forall_mem_append.mpr ⟨hbefore, List.forall_mem_cons.mpr ⟨?_, hafter⟩⟩⟩
      · unfold names at hnames ⊢
        rwa [List.map_append, List.map_cons] at hnames ⊢
      · exact distinct_insert hnode hinsert
    · rename_i hcut
      obtain ⟨⟨link, target⟩, hrel, h⟩ := bind_eq_ok.mp h
      obtain ⟨children, hinsert, h⟩ := bind_eq_ok.mp h
      cases h
      refine ⟨?_, List.forall_mem_append.mpr ⟨hchildren, List.forall_mem_singleton.mpr ?_⟩⟩
      · have hnew : link.name ∉ names nodes := Table.name_eq_of_relation hrel ▸ cutAtName_eq_none hcut
        unfold names at hnames hnew ⊢
        rw [List.map_append]
        exact hnames.append (List.nodup_singleton _) (List.disjoint_singleton.mpr hnew)
      · exact distinct_insert distinct_nil hinsert

/-- The tree of paths has each relation of a table once. -/
theorem distinct_of_ofPaths {t : Table} {paths : List Value} {nodes : List Preload}
    (h : ofPaths t paths = .ok nodes) : Distinct nodes :=
  of_foldlM_eq_ok
    (fun _ _ _ hnodes hpath => by
      obtain ⟨_, -, hinsert⟩ := bind_eq_ok.mp hpath
      exact distinct_insert hnodes hinsert)
    distinct_nil h

section
variable {n : Preload} {nodes : List Preload} {rows : List Row}

theorem Distinct.nodup (h : Distinct nodes) : (names nodes).Nodup := by
  cases h
  assumption

theorem Distinct.children (h : Distinct nodes) (hn : n ∈ nodes) : Distinct n.children := by
  cases h with
  | mk _ hchildren => exact hchildren n hn

theorem Distinct.tail (h : Distinct (n :: nodes)) : Distinct nodes :=
  ⟨(List.nodup_cons.mp h.nodup).2, fun _ hm => h.children (List.mem_cons_of_mem n hm)⟩

theorem Apart.tail (h : Apart (n :: nodes)) : Apart nodes :=
  fun m hm n' hn' => h m (List.mem_cons_of_mem n hm) n' (List.mem_cons_of_mem n hn')

theorem Apart.children (h : Apart nodes) (hn : n ∈ nodes) : Apart n.children := by
  intro m hm n' hn' link target link' target' hhas hhas'
  cases n with
  | node l t children => exact h _ hn _ hn (.child hm hhas) (.child hn' hhas')

theorem has_self (n : Preload) : n.Has n.link n.target := by
  cases n with
  | node link target children => exact .self link target children

/-- The columns by which siblings are joined are not overwritten. -/
theorem Apart.localKey_ne (h : Apart nodes) {m : Preload} (hm : m ∈ nodes) (hn : n ∈ nodes) :
    m.link.name ≠ n.link.localKey := (h m hm n hn m.has_self n.has_self).1

theorem Apart.remoteKey_notMem (h : Apart nodes) (hn : n ∈ nodes) : n.link.remoteKey ∉ names n.children := by
  intro hmem
  obtain ⟨m, hm, heq⟩ := List.mem_map.mp hmem
  cases n with
  | node link target children => exact (h _ hn _ hn (.child hm m.has_self) (.self link target children)).2 heq

mutual

/-- The links of a node and of what lies below it. -/
def linksFrom : Preload → List Link
  | node link _ children => link :: links children

/-- The links of nodes and of what lies below them. -/
def links : List Preload → List Link
  | [] => []
  | n :: ns => linksFrom n ++ links ns

end

theorem linksFrom_subset : ∀ {nodes : List Preload}, n ∈ nodes → linksFrom n ⊆ links nodes
  | m :: ms, h => by
    rw [links]
    rcases List.mem_cons.mp h with rfl | h
    · exact List.subset_append_left _ _
    · exact List.subset_append_of_subset_right _ (linksFrom_subset h)

theorem mem_links_of_has {link : Link} {target : Table} (h : n.Has link target) :
    ∀ {nodes : List Preload}, n ∈ nodes → link ∈ links nodes := by
  induction h with
  | self =>
    intro nodes hn
    exact linksFrom_subset hn List.mem_cons_self
  | child hmem _ ih =>
    intro nodes hn
    exact linksFrom_subset hn (List.mem_cons_of_mem _ (ih hmem))

theorem apart_of_links (h : ∀ m ∈ links nodes, ∀ n ∈ links nodes, m.name ≠ n.localKey ∧ m.name ≠ n.remoteKey) :
    Apart nodes :=
  fun _ hm _ hn _ _ _ _ hhas hhas' => h _ (mem_links_of_has hhas hm) _ (mem_links_of_has hhas' hn)

theorem Keyed.tail (h : Keyed (n :: nodes) rows) : Keyed nodes rows :=
  fun m hm => h m (List.mem_cons_of_mem n hm)

end

/-! ### The join -/

mutual

/-- What a row holds under the name of a node: the found rows that belong to it, each joined in turn with what was
    found below. -/
def entry (row : Row) : Preload → Findings → String × Value
  | node link _ children, .node found below =>
    (link.name, link.holding ((link.belonging row found).map fun child =>
      Writer.overlay child (entries child children below)))

/-- What a row holds under the names of nodes. -/
def entries (row : Row) : List Preload → List Findings → Row
  | n :: ns, f :: fs => entry row n f :: entries row ns fs
  | _, _ => []

end

/-- A row together with what was found for it. -/
def joined (nodes : List Preload) (findings : List Findings) (row : Row) : Row :=
  Writer.overlay row (entries row nodes findings)

section
variable {nodes : List Preload} {findings : List Findings} {row : Row} {c : String}

theorem entry_eq (row : Row) (n : Preload) (f : Findings) : entry row n f =
    (n.link.name, n.link.holding ((n.link.belonging row f.rows).map (joined n.children f.beneath))) := by
  cases n with
  | node link target children =>
    cases f with
    | node found below => rfl

theorem name_entry (row : Row) (n : Preload) (f : Findings) : (entry row n f).1 = n.link.name := by rw [entry_eq]

theorem entry_mem_entries (row : Row) {n : Preload} {f : Findings} :
    ∀ {nodes : List Preload} {findings : List Findings}, (n, f) ∈ nodes.zip findings →
      entry row n f ∈ entries row nodes findings
  | m :: ms, g :: gs, h => by
    rw [List.zip_cons_cons, List.mem_cons] at h
    rcases h with h | h
    · cases h
      exact List.mem_cons_self
    · exact List.mem_cons_of_mem _ (entry_mem_entries row h)

theorem columns_entries_subset : ∀ {nodes : List Preload} {findings : List Findings},
    (entries row nodes findings).columns ⊆ names nodes
  | [], _ => by simp [entries, Row.columns]
  | _ :: _, [] => by simp [entries, Row.columns]
  | n :: ns, f :: fs => by
    rw [entries, Row.columns, List.map_cons, name_entry]
    exact List.cons_subset_cons _ columns_entries_subset

theorem nodup_columns_entries : ∀ {nodes : List Preload} {findings : List Findings},
    (names nodes).Nodup → (entries row nodes findings).columns.Nodup
  | [], _, _ => by simp [entries, Row.columns]
  | _ :: _, [], _ => by simp [entries, Row.columns]
  | n :: ns, f :: fs, h => by
    obtain ⟨hnew, hrest⟩ := List.nodup_cons.mp h
    rw [entries, Row.columns, List.map_cons, name_entry]
    exact List.nodup_cons.mpr ⟨fun hmem => hnew (columns_entries_subset hmem), nodup_columns_entries hrest⟩

/-- Under the names of nodes stands what was found, and nothing else changes. -/
theorem get?_joined_of_notMem (h : (names nodes).Nodup) (hc : c ∉ names nodes) :
    (joined nodes findings row).get? c = row.get? c := by
  rw [joined, Row.get?_overlay (nodup_columns_entries h), Row.get?_eq_none fun hmem => hc (columns_entries_subset hmem)]
  rfl

theorem get?_joined_of_mem (h : (names nodes).Nodup) {n : Preload} {f : Findings} (hmem : (n, f) ∈ nodes.zip findings) :
    (joined nodes findings row).get? n.link.name =
      some (n.link.holding ((n.link.belonging row f.rows).map (joined n.children f.beneath))) := by
  have hentry := entry_mem_entries row hmem
  rw [entry_eq] at hentry
  rw [joined, Row.get?_overlay (nodup_columns_entries h), Row.get?_of_mem (nodup_columns_entries h) hentry]
  rfl

theorem getD_joined (h : (names nodes).Nodup) (hc : c ∉ names nodes) :
    (joined nodes findings row).getD c = row.getD c := by
  unfold Row.getD
  rw [get?_joined_of_notMem h hc]

end

/-! ### Visits -/

/-- A node of a tree with the rows that it is loaded for, which are its parents, and with what was found for it. -/
structure Visit where
  parents : List Row
  node : Preload
  found : Findings

/-- Whether a parent has a key. -/
def Visit.hasKeys (v : Visit) : Bool := v.parents.any fun row => !(row.getD v.node.link.localKey).isNull

theorem Visit.hasKeys_eq_false_iff {v : Visit} :
    v.hasKeys = false ↔ ∀ row ∈ v.parents, (row.getD v.node.link.localKey).isNull = true := by
  simp [Visit.hasKeys]

mutual

/-- The visits of a node and of the nodes below it, for which the parents are the rows that were found above them. -/
def visit (rows : List Row) : Preload → Findings → List Visit
  | node link target children, .node found below =>
    ⟨rows, .node link target children, .node found below⟩ :: visits found children below

/-- The visits of all nodes of a tree, each once. -/
def visits (rows : List Row) : List Preload → List Findings → List Visit
  | n :: ns, f :: fs => visit rows n f ++ visits rows ns fs
  | _, _ => []

end

end Preload
end TableQuery
