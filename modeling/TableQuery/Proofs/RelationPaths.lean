import TableQuery.Preload
import TableQuery.Proofs.Outcomes

/-! Paths along the relations of tables. A tree of relations is only made of paths each step of which a table
    declares; a path that loses its way is refused, whatever the paths in front of it have put into the tree. -/

namespace TableQuery

/-- Following relations by name leads from one table to another. -/
inductive Table.Leads : Table → List String → Table → Prop
  | here (t : Table) : Leads t [] t
  | step {t next reached : Table} {link : Link} {name : String} {rest : List String} :
    t.relation name = .ok (link, next) → Leads next rest reached → Leads t (name :: rest) reached

/-- A path has a segment that names no relation of the table that the segments in front of it lead to. -/
def Table.LosesPath (t : Table) (path : List String) : Prop :=
  ∃ before name after reached, path = before ++ name :: after ∧ t.Leads before reached ∧
    ∀ r ∈ reached.relations, r.1.name ≠ name

/-- A node of a tree below a table: the table declares its relation, and so on downwards. -/
inductive Preload.Resolved : Table → Preload → Prop
  | node {t target : Table} {link : Link} {children : List Preload} :
    t.relation link.name = .ok (link, target) → (∀ n ∈ children, Resolved target n) →
    Resolved t (.node link target children)

/-- A relation that a table declares, or a table that its relations lead to. -/
def Table.Reaches (t : Table) (link : Link) (target : Table) : Prop :=
  ∃ path owner, t.Leads path owner ∧ owner.relation link.name = .ok (link, target)

/-- A node of a tree, by its relation and the table that this leads to. -/
inductive Preload.Has : Preload → Link → Table → Prop
  | self (link : Link) (target : Table) (children : List Preload) : Has (.node link target children) link target
  | child {link link' : Link} {target target' : Table} {children : List Preload} {n : Preload} :
    n ∈ children → n.Has link target → Has (.node link' target' children) link target

namespace Table
variable {t next reached : Table} {link : Link} {name : String} {before after path : List String}

theorem name_eq_of_relation (h : t.relation name = .ok (link, next)) : link.name = name := by
  unfold relation at h
  split at h
  · rename_i r hfind
    cases h
    simpa using List.find?_some hfind
  · cases h

theorem mem_of_relation (h : t.relation name = .ok (link, next)) : (link, next) ∈ t.relations := by
  unfold relation at h
  split at h
  · rename_i r hfind
    cases h
    exact List.mem_of_find?_eq_some hfind
  · cases h

/-- A path that leads somewhere goes on from wherever its beginning leads to. -/
theorem Leads.of_append (hbefore : t.Leads before next) (h : t.Leads (before ++ after) reached) :
    next.Leads after reached := by
  induction hbefore with
  | here t => exact h
  | step hrel _ ih =>
    cases h with
    | step hrel' h =>
      rw [hrel] at hrel'
      cases hrel'
      exact ih h

theorem Leads.not_losesPath (h : t.Leads path reached) : ¬ t.LosesPath path := by
  rintro ⟨before, name, after, lost, rfl, hbefore, hnone⟩
  cases hbefore.of_append h with
  | step hrel _ => exact hnone _ (mem_of_relation hrel) (name_eq_of_relation hrel)

end Table

namespace Preload
variable {t : Table} {nodes nodes' : List Preload}

theorem cutAtName_eq_some {name : String} : ∀ {nodes before after : List Preload} {n : Preload},
    cutAtName name nodes = some (before, n, after) → nodes = before ++ n :: after ∧ n.link.name = name
  | m :: ms, before, after, n, h => by
    unfold cutAtName at h
    split at h
    · rename_i hname
      cases h
      exact ⟨rfl, hname⟩
    · obtain ⟨⟨before', n', after'⟩, hcut, h⟩ := Option.map_eq_some_iff.mp h
      cases h
      obtain ⟨rfl, hname⟩ := cutAtName_eq_some hcut
      exact ⟨rfl, hname⟩

/-- Putting a path into a tree keeps the tree resolved, and only a path that leads somewhere is put in. -/
theorem insert_eq_ok : ∀ {path : List String} {t : Table} {nodes nodes' : List Preload},
    (∀ n ∈ nodes, Resolved t n) → insert t path nodes = .ok nodes' →
      (∀ n ∈ nodes', Resolved t n) ∧ ∃ reached, t.Leads path reached
  | [], t, nodes, nodes', hnodes, h => by
    cases h
    exact ⟨hnodes, t, .here t⟩
  | name :: rest, t, nodes, nodes', hnodes, h => by
    unfold insert at h
    split at h
    -- A node of this name is there already, which keeps its relation; the rest of the path goes on below it.
    · rename_i before link target children after hcut
      obtain ⟨rfl, hname⟩ := cutAtName_eq_some hcut
      obtain ⟨hbefore, hnode, hafter⟩ := List.forall_mem_append.mp hnodes |>.imp_right List.forall_mem_cons.mp
      obtain ⟨children', hchildren', h⟩ := bind_eq_ok.mp h
      cases h
      cases hnode with
      | node hrel hchildren =>
        obtain ⟨hresolved, reached, hleads⟩ := insert_eq_ok hchildren hchildren'
        rw [← hname]
        exact ⟨List.forall_mem_append.mpr ⟨hbefore, List.forall_mem_cons.mpr ⟨.node hrel hresolved, hafter⟩⟩,
          reached, .step hrel hleads⟩
    -- The name is new, so that the table itself has to declare it.
    · obtain ⟨⟨link, target⟩, hrel, h⟩ := bind_eq_ok.mp h
      obtain ⟨children', hchildren', h⟩ := bind_eq_ok.mp h
      cases h
      obtain ⟨hresolved, reached, hleads⟩ := insert_eq_ok (List.forall_mem_nil _) hchildren'
      refine ⟨List.forall_mem_append.mpr ⟨hnodes, List.forall_mem_singleton.mpr (.node ?_ hresolved)⟩,
        reached, .step hrel hleads⟩
      rwa [Table.name_eq_of_relation hrel]

/-- A resolved tree holds nothing but relations within reach. -/
theorem Resolved.reaches {n : Preload} {link : Link} {target : Table} (h : n.Has link target) (hresolved : Resolved t n) :
    t.Reaches link target := by
  induction h generalizing t with
  | self link target children =>
    cases hresolved with
    | node hrel _ => exact ⟨[], t, .here t, hrel⟩
  | child hmem _ ih =>
    cases hresolved with
    | node hrel hchildren =>
      obtain ⟨path, owner, hleads, howner⟩ := ih (hchildren _ hmem)
      exact ⟨_, owner, .step hrel hleads, howner⟩

theorem insertPath_eq_ok {path : Value} (hnodes : ∀ n ∈ nodes, Resolved t n)
    (h : insertPath t nodes path = .ok nodes') :
    (∀ n ∈ nodes', Resolved t n) ∧ ∀ s, path = .text s → ∃ reached, t.Leads (cutText '.' s) reached := by
  obtain ⟨s, hs, h⟩ := bind_eq_ok.mp h
  obtain ⟨hresolved, hleads⟩ := insert_eq_ok hnodes h
  refine ⟨hresolved, ?_⟩
  rintro s' rfl
  dsimp only [Value.asIncludePath] at hs
  split at hs
  · cases hs
    exact hleads
  · cases hs

theorem resolved_insertPath (nodes : List Preload) (path : Value) (nodes' : List Preload) (hnodes : ∀ n ∈ nodes, Resolved t n)
    (h : insertPath t nodes path = .ok nodes') : ∀ n ∈ nodes', Resolved t n := (insertPath_eq_ok hnodes h).1

theorem resolved_of_ofPaths {paths : List Value} {tree : List Preload} (h : ofPaths t paths = .ok tree) :
    ∀ n ∈ tree, Resolved t n := of_foldlM_eq_ok resolved_insertPath (List.forall_mem_nil _) h

/-- If the tree of paths is made, then no path loses its way. -/
theorem not_losesPath_of_ofPaths {paths : List Value} {tree : List Preload} (h : ofPaths t paths = .ok tree)
    {path : String} (hpath : .text path ∈ paths) : ¬ t.LosesPath (cutText '.' path) := by
  obtain ⟨nodes, nodes', hnodes, hinsert⟩ :=
    forall_of_foldlM_eq_ok resolved_insertPath (List.forall_mem_nil _) h (.text path) hpath
  obtain ⟨reached, hleads⟩ := (insertPath_eq_ok hnodes hinsert).2 path rfl
  exact hleads.not_losesPath

end Preload
end TableQuery
