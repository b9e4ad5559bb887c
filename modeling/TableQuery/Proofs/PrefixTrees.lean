import TableQuery.Proofs.CompilationOutcomes
import TableQuery.Proofs.JoinedRows

/-! The tree of relations that paths become. It has a node for each beginning of each path, and no other; nodes side
    by side have different names, so that one node at most stands at a path. The order of the paths and repetitions
    make no difference to what stands where, and a path that is malformed or loses its way is refused. -/

namespace TableQuery

/-- A relation is the first of its name that a table declares, and leads to the target. -/
def Table.Declares (t : Table) (name : String) (link : Link) (target : Table) : Prop :=
  ∃ before after, t.relations = before ++ (link, target) :: after ∧ link.name = name ∧
    ∀ r ∈ before, r.1.name ≠ name

/-- What is wrong with a path: it does not fall into names, or one of its segments names no relation of the table
    that the segments in front of it lead to. -/
inductive Table.PathFault (t : Table) : Value → QueryError → Prop
  | malformed {v : Value} : ¬ v.IsPath → PathFault t v (.includePath v)
  | lost {s name : String} {before after : List String} {reached : Table} : (Value.text s).IsPath →
    cutText '.' s = before ++ name :: after → t.Leads before reached → (∀ r ∈ reached.relations, r.1.name ≠ name) →
    PathFault t (.text s) (.unknownRelation name reached.name)

namespace Preload

/-- A node stands at a path in a tree: each segment is the name of a node on the level below the one before. -/
inductive Stands : List Preload → List String → Preload → Prop
  | here {nodes : List Preload} {n : Preload} {name : String} : n ∈ nodes → n.link.name = name → Stands nodes [name] n
  | deeper {nodes : List Preload} {n m : Preload} {name : String} {path : List String} : n ∈ nodes →
    n.link.name = name → Stands n.children path m → Stands nodes (name :: path) m

/-- A node with the given relation stands at a path. -/
def Carries (tree : List Preload) (path : List String) (link : Link) (target : Table) : Prop :=
  ∃ n, Stands tree path n ∧ n.link = link ∧ n.target = target

end Preload

namespace Value
variable {v : Value}

theorem asIncludePath_eq_ok {s : String} : v.asIncludePath = .ok s ↔ v = .text s ∧ v.IsPath := by
  have htext {s : String} (h : v.asIncludePath = .ok s) : v = .text s := by
    unfold asIncludePath at h
    split at h
    · split at h
      · cases h
        rfl
      · cases h
    · cases h
  refine ⟨fun h => ⟨htext h, Compiler.isPath_of_asIncludePath h⟩, ?_⟩
  rintro ⟨hv, hpath⟩
  obtain ⟨path, hok⟩ := Compiler.exists_asIncludePath hpath
  cases (htext hok).symm.trans hv
  exact hok

theorem asIncludePath_eq_error {e : QueryError} (h : v.asIncludePath = .error e) :
    e = .includePath v ∧ ¬ v.IsPath := by
  refine ⟨?_, fun hpath => ?_⟩
  · unfold asIncludePath at h
    split at h
    · split at h
      · cases h
      · cases h
        rfl
    · cases h
      rfl
  · obtain ⟨path, hok⟩ := Compiler.exists_asIncludePath hpath
    cases hok.symm.trans h

end Value

namespace Table
variable {t next reached reached' : Table} {link : Link} {name : String} {before after path : List String}

theorem declares_of_relation (h : t.relation name = .ok (link, next)) : t.Declares name link next := by
  unfold relation at h
  split at h
  · rename_i r hfind
    cases h
    obtain ⟨hname, before, after, hsplit, hbefore⟩ := List.find?_eq_some_iff_append.mp hfind
    exact ⟨before, after, hsplit, by simpa using hname, fun r hr => by simpa using hbefore r hr⟩
  · cases h

theorem relation_eq_error {e : QueryError} (h : t.relation name = .error e) :
    e = .unknownRelation name t.name ∧ ∀ r ∈ t.relations, r.1.name ≠ name := by
  unfold relation at h
  split at h
  · cases h
  · rename_i hfind
    cases h
    exact ⟨rfl, fun r hr => by simpa using List.find?_eq_none.mp hfind r hr⟩

theorem Leads.unique (h : t.Leads path reached) (h' : t.Leads path reached') : reached = reached' := by
  rw [← List.append_nil path] at h'
  cases h.of_append h' with
  | here => rfl

theorem Leads.append (h : t.Leads before next) (h' : next.Leads after reached) : t.Leads (before ++ after) reached := by
  induction h with
  | here t => exact h'
  | step hrel _ ih => exact .step hrel (ih h')

/-- With a fault a path is malformed or loses its way, and the other way around. -/
theorem exists_pathFault_iff {v : Value} :
    (∃ e, t.PathFault v e) ↔ ¬ v.IsPath ∨ ∃ s, v = .text s ∧ t.LosesPath (cutText '.' s) := by
  constructor
  · rintro ⟨e, hfault⟩
    cases hfault with
    | malformed hpath => exact .inl hpath
    | lost _ hcut hleads hnone => exact .inr ⟨_, rfl, _, _, _, _, hcut, hleads, hnone⟩
  · rintro hfault
    by_cases hpath : v.IsPath
    · obtain ⟨s, rfl, _, _, _, _, hcut, hleads, hnone⟩ := hfault.resolve_left (not_not.mpr hpath)
      exact ⟨_, .lost hpath hcut hleads hnone⟩
    · exact ⟨_, .malformed hpath⟩

theorem PathFault.family {v : Value} {e : QueryError} (h : t.PathFault v e) : e.family = .field := by
  cases h <;> rfl

end Table

namespace Preload
variable {t : Table} {nodes nodes' : List Preload} {n m : Preload} {name : String} {path rest : List String}

/-! ### What stands at a path -/

theorem not_stands_nil : ¬ Stands [] path m := by
  intro h
  cases h with
  | here hmem _ | deeper hmem _ _ => cases hmem

theorem stands_append : Stands (nodes ++ nodes') path m ↔ Stands nodes path m ∨ Stands nodes' path m := by
  constructor
  · intro h
    cases h with
    | here hmem hname => exact (List.mem_append.mp hmem).imp (.here · hname) (.here · hname)
    | deeper hmem hname h => exact (List.mem_append.mp hmem).imp (.deeper · hname h) (.deeper · hname h)
  · rintro (h | h)
    · cases h with
      | here hmem hname => exact .here (List.mem_append_left _ hmem) hname
      | deeper hmem hname h => exact .deeper (List.mem_append_left _ hmem) hname h
    · cases h with
      | here hmem hname => exact .here (List.mem_append_right _ hmem) hname
      | deeper hmem hname h => exact .deeper (List.mem_append_right _ hmem) hname h

theorem exists_stands_append : (∃ m, Stands (nodes ++ nodes') path m) ↔
    (∃ m, Stands nodes path m) ∨ ∃ m, Stands nodes' path m := by
  simp only [stands_append, exists_or]

theorem exists_stands_singleton : (∃ m, Stands [n] path m) ↔
    ∃ rest, path = n.link.name :: rest ∧ (rest = [] ∨ ∃ m, Stands n.children rest m) := by
  constructor
  · rintro ⟨m, h⟩
    cases h with
    | here hmem hname =>
      obtain rfl := List.mem_singleton.mp hmem
      exact ⟨[], by rw [hname], .inl rfl⟩
    | deeper hmem hname h =>
      obtain rfl := List.mem_singleton.mp hmem
      exact ⟨_, by rw [hname], .inr ⟨_, h⟩⟩
  · rintro ⟨rest, rfl, rfl | ⟨m, h⟩⟩
    · exact ⟨n, .here (List.mem_singleton_self n) rfl⟩
    · exact ⟨m, .deeper (List.mem_singleton_self n) rfl h⟩

/-- In a resolved tree the table that the path in front of a node leads to declares the relation of the node. -/
theorem Stands.declared (h : Stands nodes path n) (hnodes : ∀ n ∈ nodes, Resolved t n) :
    ∃ before owner, path = before ++ [n.link.name] ∧ t.Leads before owner ∧
      owner.relation n.link.name = .ok (n.link, n.target) := by
  induction h generalizing t with
  | here hmem hname =>
    cases hnodes _ hmem with
    | node hrel _ => exact ⟨[], t, by rw [hname]; rfl, .here t, hrel⟩
  | deeper hmem hname _ ih =>
    subst hname
    cases hnodes _ hmem with
    | node hrel hchildren =>
      obtain ⟨before, owner, rfl, hleads, hrel'⟩ := ih hchildren
      exact ⟨_ :: before, owner, rfl, .step hrel hleads, hrel'⟩

/-- The path of a node leads to its target. -/
theorem Stands.leads (h : Stands nodes path n) (hnodes : ∀ n ∈ nodes, Resolved t n) : t.Leads path n.target := by
  obtain ⟨before, owner, rfl, hleads, hrel⟩ := h.declared hnodes
  exact hleads.append (.step hrel (.here _))

/-- Two nodes at one path have one relation, in whatever resolved trees below a table they stand. -/
theorem Stands.same (h : Stands nodes path n) (h' : Stands nodes' path m) (hnodes : ∀ n ∈ nodes, Resolved t n)
    (hnodes' : ∀ n ∈ nodes', Resolved t n) : n.link = m.link ∧ n.target = m.target := by
  obtain ⟨before, owner, rfl, hleads, hrel⟩ := h.declared hnodes
  obtain ⟨before', owner', hpath, hleads', hrel'⟩ := h'.declared hnodes'
  obtain ⟨rfl, hname⟩ := List.append_inj' hpath rfl
  obtain rfl := hleads.unique hleads'
  rw [List.singleton_inj.mp hname, hrel'] at hrel
  obtain ⟨hlink, htarget⟩ := Prod.mk.inj (Except.ok.inj hrel)
  exact ⟨hlink.symm, htarget.symm⟩

/-! ### Putting a path into a tree -/

/-- What stands below a node after a path has been put there, and what is a beginning of the longer path. -/
theorem exists_stands_node {link : Link} {target : Table} {children children' : List Preload}
    (h : ∀ p, (∃ m, Stands children' p m) ↔ (∃ m, Stands children p m) ∨ p ≠ [] ∧ p <+: rest) :
    (∃ m, Stands [node link target children'] path m) ↔
      (∃ m, Stands [node link target children] path m) ∨ path ≠ [] ∧ path <+: link.name :: rest := by
  rw [exists_stands_singleton, exists_stands_singleton]
  constructor
  · rintro ⟨q, rfl, rfl | hq⟩
    · exact .inl ⟨[], rfl, .inl rfl⟩
    · rcases (h q).mp hq with hq | ⟨-, hq⟩
      · exact .inl ⟨q, rfl, .inr hq⟩
      · exact .inr ⟨List.cons_ne_nil _ _, List.cons_prefix_cons.mpr ⟨rfl, hq⟩⟩
  · rintro (⟨q, rfl, hq⟩ | ⟨hne, hpath⟩)
    · exact ⟨q, rfl, hq.imp_right fun hq => (h q).mpr (.inl hq)⟩
    · obtain ⟨x, q, rfl⟩ := List.exists_cons_of_ne_nil hne
      obtain ⟨rfl, hq⟩ := List.cons_prefix_cons.mp hpath
      exact ⟨q, rfl, or_iff_not_imp_left.mpr fun hne => (h q).mpr (.inr ⟨hne, hq⟩)⟩

theorem prefix_of_stands_leaf {link : Link} {target : Table} (h : ∃ m, Stands [node link target []] path m) :
    path ≠ [] ∧ path <+: link.name :: rest := by
  obtain ⟨q, rfl, rfl | ⟨m, hm⟩⟩ := exists_stands_singleton.mp h
  · exact ⟨List.cons_ne_nil _ _, List.cons_prefix_cons.mpr ⟨rfl, List.nil_prefix⟩⟩
  · exact absurd hm not_stands_nil

/-- A path that is put in adds its beginnings to what stands in the tree. -/
theorem insert_stands : ∀ {path : List String} {t : Table} {nodes nodes' : List Preload},
    insert t path nodes = .ok nodes' → ∀ p, (∃ n, Stands nodes' p n) ↔
      (∃ n, Stands nodes p n) ∨ p ≠ [] ∧ p <+: path
  | [], t, nodes, nodes', h, p => by
    cases h
    refine (or_iff_left ?_).symm
    rintro ⟨hne, hp⟩
    exact hne (List.prefix_nil.mp hp)
  | name :: rest, t, nodes, nodes', h, p => by
    unfold insert at h
    split at h
    -- The node of this name keeps its place, and the rest of the path goes below it.
    · rename_i before link target children after hcut
      obtain ⟨rfl, rfl⟩ := cutAtName_eq_some hcut
      obtain ⟨children', hchildren', h⟩ := bind_eq_ok.mp h
      cases h
      rw [List.append_cons, exists_stands_append, exists_stands_append, exists_stands_node (insert_stands hchildren'),
        List.append_cons before, exists_stands_append, exists_stands_append]
      tauto
    -- A new name gets a node behind the others, with nothing below it but the rest of the path.
    · obtain ⟨⟨link, target⟩, hrel, h⟩ := bind_eq_ok.mp h
      obtain ⟨children', hchildren', h⟩ := bind_eq_ok.mp h
      cases h
      obtain rfl := Table.name_eq_of_relation hrel
      rw [exists_stands_append, exists_stands_node (insert_stands hchildren'),
        or_iff_right_of_imp prefix_of_stands_leaf]

/-- Putting a path in fails only where the path loses its way. -/
theorem insert_eq_error {e : QueryError} : ∀ {path : List String} {t : Table} {nodes : List Preload},
    (∀ n ∈ nodes, Resolved t n) → insert t path nodes = .error e → ∃ before name after reached,
      path = before ++ name :: after ∧ t.Leads before reached ∧ (∀ r ∈ reached.relations, r.1.name ≠ name) ∧
        e = .unknownRelation name reached.name
  | [], _, _, _, h => nomatch h
  | name :: rest, t, nodes, hnodes, h => by
    unfold insert at h
    split at h
    · rename_i before link target children after hcut
      obtain ⟨rfl, rfl⟩ := cutAtName_eq_some hcut
      cases hnodes (node link target children) (List.mem_append_right _ List.mem_cons_self) with
      | node hrel hchildren =>
        rcases bind_eq_error.mp h with h | ⟨_, -, h⟩
        · obtain ⟨front, lost, back, reached, rfl, hleads, hnone, he⟩ := insert_eq_error hchildren h
          exact ⟨_ :: front, lost, back, reached, rfl, .step hrel hleads, hnone, he⟩
        · cases h
    · rcases bind_eq_error.mp h with hrel | ⟨⟨link, target⟩, hrel, h⟩
      · obtain ⟨rfl, hnone⟩ := Table.relation_eq_error hrel
        exact ⟨[], name, rest, t, rfl, .here t, hnone, rfl⟩
      · rcases bind_eq_error.mp h with h | ⟨_, -, h⟩
        · obtain ⟨front, lost, back, reached, rfl, hleads, hnone, he⟩ := insert_eq_error (List.forall_mem_nil _) h
          exact ⟨_ :: front, lost, back, reached, rfl, .step hrel hleads, hnone, he⟩
        · cases h

/-! ### Paths as queries give them -/

theorem insertPath_eq_error {v : Value} {e : QueryError} (hnodes : ∀ n ∈ nodes, Resolved t n)
    (h : insertPath t nodes v = .error e) : t.PathFault v e := by
  rcases bind_eq_error.mp h with hfault | ⟨s, hs, hinsert⟩
  · obtain ⟨rfl, hpath⟩ := Value.asIncludePath_eq_error hfault
    exact .malformed hpath
  · obtain ⟨rfl, hpath⟩ := Value.asIncludePath_eq_ok.mp hs
    obtain ⟨before, name, after, reached, hcut, hleads, hnone, rfl⟩ := insert_eq_error hnodes hinsert
    exact .lost hpath hcut hleads hnone

theorem insertPath_stands {v : Value} (h : insertPath t nodes v = .ok nodes') (p : List String) :
    (∃ n, Stands nodes' p n) ↔ (∃ n, Stands nodes p n) ∨ p ≠ [] ∧ ∃ s, v = .text s ∧ p <+: cutText '.' s := by
  obtain ⟨s, hs, hinsert⟩ := bind_eq_ok.mp h
  obtain ⟨rfl, -⟩ := Value.asIncludePath_eq_ok.mp hs
  rw [insert_stands hinsert p]
  simp

theorem foldlM_insertPath_stands : ∀ {paths : List Value} {nodes tree : List Preload},
    paths.foldlM (insertPath t) nodes = .ok tree → ∀ p, (∃ n, Stands tree p n) ↔
      (∃ n, Stands nodes p n) ∨ p ≠ [] ∧ ∃ s, .text s ∈ paths ∧ p <+: cutText '.' s
  | [], nodes, tree, h, p => by
    cases h
    simp
  | v :: paths, nodes, tree, h, p => by
    rw [List.foldlM_cons] at h
    obtain ⟨nodes', hinsert, h⟩ := bind_eq_ok.mp h
    rw [foldlM_insertPath_stands h p, insertPath_stands hinsert p, or_assoc, ← and_or_left, ← exists_or]
    simp only [List.mem_cons, or_and_right, eq_comm (a := v)]

theorem not_pathFault_of_ofPaths {paths : List Value} {tree : List Preload} (h : ofPaths t paths = .ok tree) :
    ∀ v ∈ paths, ∀ e, ¬ t.PathFault v e := by
  intro v hv e hfault
  obtain ⟨_, _, -, hinsert⟩ := forall_of_foldlM_eq_ok resolved_insertPath (List.forall_mem_nil _) h v hv
  obtain ⟨s, hs, -⟩ := bind_eq_ok.mp hinsert
  obtain ⟨rfl, hpath⟩ := Value.asIncludePath_eq_ok.mp hs
  cases hfault with
  | malformed hbad => exact hbad hpath
  | lost _ hcut hbefore hnone => exact not_losesPath_of_ofPaths h hv ⟨_, _, _, _, hcut, hbefore, hnone⟩

/-- Paths become a tree unless one of them is at fault, and the first that is decides what is said of it. -/
theorem failsBy_ofPaths (t : Table) (paths : List Value) : FailsBy
    (fun e => ∃ before v after, paths = before ++ v :: after ∧ (∀ u ∈ before, ∀ e, ¬ t.PathFault u e) ∧ t.PathFault v e)
    (ofPaths t paths) := by
  refine .of_cases (fun e he => ?_) fun tree htree e => ?_
  · obtain ⟨before, v, after, nodes, rfl, hbefore, hinsert⟩ := exists_of_foldlM_eq_error he
    exact ⟨before, v, after, rfl, not_pathFault_of_ofPaths hbefore,
      insertPath_eq_error (resolved_of_ofPaths hbefore) hinsert⟩
  · rintro ⟨before, v, after, rfl, -, hfault⟩
    exact not_pathFault_of_ofPaths htree v (List.mem_append_right _ List.mem_cons_self) e hfault

theorem exists_error_iff (t : Table) (paths : List Value) :
    (∃ e, ofPaths t paths = .error e) ↔ ∃ v ∈ paths, ∃ e, t.PathFault v e := by
  constructor
  · rintro ⟨e, he⟩
    obtain ⟨before, v, after, rfl, -, hfault⟩ := (failsBy_ofPaths t paths).of_eq_error he
    exact ⟨v, List.mem_append_right _ List.mem_cons_self, e, hfault⟩
  · rintro ⟨v, hv, e, hfault⟩
    cases htree : ofPaths t paths with
    | error e' => exact ⟨e', rfl⟩
    | ok tree => exact absurd hfault (not_pathFault_of_ofPaths htree v hv e)

theorem ofPaths_stands {paths : List Value} {tree : List Preload} (h : ofPaths t paths = .ok tree) (p : List String) :
    (∃ n, Stands tree p n) ↔ p ≠ [] ∧ ∃ s, .text s ∈ paths ∧ p <+: cutText '.' s := by
  rw [foldlM_insertPath_stands h p, or_iff_right]
  rintro ⟨n, hn⟩
  exact not_stands_nil hn

/-- What a node carries is settled by its path, so that more paths of nodes only mean more nodes. -/
theorem Carries.of_subset {tree tree' : List Preload} {link : Link} {target : Table} (h : Carries tree path link target)
    (htree : ∀ n ∈ tree, Resolved t n) (htree' : ∀ n ∈ tree', Resolved t n)
    (hpath : (∃ n, Stands tree path n) → ∃ n, Stands tree' path n) : Carries tree' path link target := by
  obtain ⟨n, hn, rfl, rfl⟩ := h
  obtain ⟨m, hm⟩ := hpath ⟨n, hn⟩
  exact ⟨m, hm, hm.same hn htree' htree⟩

/-- Paths are refused, as an invalid field, exactly if one of them is malformed or loses its way. Otherwise they
    become a tree in which a node stands at each beginning of each of them and nowhere else, alone under its name;
    its relation is the first of that name which the table declares that its parent, and the path in front of it,
    lead to. Paths in another order, or with repetitions, become a tree with the same nodes. -/
theorem ofPaths_prefix_tree (t : Table) (paths : List Value) :
    ((∃ e, ofPaths t paths = .error e) ↔
      ∃ v ∈ paths, ¬ v.IsPath ∨ ∃ s, v = .text s ∧ t.LosesPath (cutText '.' s)) ∧
    (∀ e, ofPaths t paths = .error e → e.family = .field) ∧
    ∀ tree, ofPaths t paths = .ok tree →
      Distinct tree ∧
      (∀ path, (∃ n, Stands tree path n) ↔ path ≠ [] ∧ ∃ s, .text s ∈ paths ∧ path <+: cutText '.' s) ∧
      (∀ before name n, Stands tree (before ++ [name]) n → ∃ owner, t.Leads before owner ∧
        owner.Declares name n.link n.target ∧ ∀ parent, Stands tree before parent → parent.target = owner) ∧
      ∀ paths', (∀ v, v ∈ paths' ↔ v ∈ paths) → ∃ tree', ofPaths t paths' = .ok tree' ∧
        ∀ path link target, Carries tree' path link target ↔ Carries tree path link target := by
  refine ⟨?_, fun e he => ?_, fun tree htree => ?_⟩
  · simp only [← Table.exists_pathFault_iff]
    exact exists_error_iff t paths
  · obtain ⟨_, _, _, -, -, hfault⟩ := (failsBy_ofPaths t paths).of_eq_error he
    exact hfault.family
  have hresolved := resolved_of_ofPaths htree
  refine ⟨distinct_of_ofPaths htree, ofPaths_stands htree, fun before name n hn => ?_, fun paths' hsame => ?_⟩
  · obtain ⟨front, owner, hpath, hleads, hrel⟩ := hn.declared hresolved
    obtain ⟨rfl, hname⟩ := List.append_inj' hpath rfl
    rw [← List.singleton_inj.mp hname] at hrel
    exact ⟨owner, hleads, Table.declares_of_relation hrel,
      fun parent hparent => (hparent.leads hresolved).unique hleads⟩
  · cases htree' : ofPaths t paths' with
    | error e =>
      obtain ⟨v, hv, hfault⟩ := (exists_error_iff t paths').mp ⟨e, htree'⟩
      obtain ⟨e', he'⟩ := (exists_error_iff t paths).mpr ⟨v, (hsame v).mp hv, hfault⟩
      cases he'.symm.trans htree
    | ok tree' =>
      have hpaths (p : List String) : (∃ n, Stands tree' p n) ↔ ∃ n, Stands tree p n := by
        simp only [ofPaths_stands htree', ofPaths_stands htree, hsame]
      have hresolved' := resolved_of_ofPaths htree'
      exact ⟨tree', rfl, fun path link target => ⟨fun h => h.of_subset hresolved' hresolved (hpaths path).mp,
        fun h => h.of_subset hresolved hresolved' (hpaths path).mpr⟩⟩

/-- Two paths that overlap, and the same paths the other way around and one of them twice. The table declares two
    relations of one name. -/
theorem ofPaths_prefix_tree_users :
    let comments : Table := ⟨"comments", "id", false, none, none, none, []⟩
    let posts : Table := ⟨"posts", "id", false, none, none, none, [(⟨"comments", "id", "post_id", true⟩, comments)]⟩
    let authored : Link := ⟨"posts", "id", "user_id", true⟩
    let users : Table := ⟨"users", "id", false, none, none, none,
      [(authored, posts), (⟨"posts", "id", "editor_id", true⟩, comments)]⟩
    let paths : List Value := [.text "posts.comments", .text "posts"]
    let paths' : List Value := [.text "posts", .text "posts.comments", .text "posts"]
    ∃ tree, ofPaths users paths = .ok tree ∧ (∃ n, Stands tree ["posts", "comments"] n) ∧
      (∀ n, Stands tree ["posts"] n → users.Declares "posts" n.link n.target) ∧
      ∃ tree', ofPaths users paths' = .ok tree' ∧
        ∀ path link target, Carries tree' path link target ↔ Carries tree path link target := by
  intro comments posts authored users paths paths'
  obtain ⟨tree, htree⟩ : ∃ tree, ofPaths users paths = .ok tree := ⟨_, rfl⟩
  obtain ⟨-, hstands, hdeclared, hsame⟩ := (ofPaths_prefix_tree users paths).2.2 tree htree
  refine ⟨tree, htree, (hstands _).mpr ⟨List.cons_ne_nil _ _, "posts.comments", List.mem_cons_self, ?_⟩, fun n hn => ?_,
    hsame paths' fun v => ?_⟩
  · exact ⟨[], by decide⟩
  · obtain ⟨owner, hleads, hdeclares, -⟩ := hdeclared [] "posts" n hn
    cases hleads
    exact hdeclares
  · simp only [paths, paths', List.mem_cons]
    tauto

end Preload
end TableQuery
