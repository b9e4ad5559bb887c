import Mathlib.Data.List.Induction
import TableQuery.Proofs.Courses
import TableQuery.Proofs.JoinedRows

/-! Loading of relations as a join. For answers that hold only rows of the requested keys, the rows come out joined
    with what was answered, though relations are loaded one after another and rows are changed on the way. -/

namespace TableQuery
open Program

namespace Program
variable {α β : Type}

theorem EndsAfter.bind {p : Program α} {k : α → Program β} {run more : List Exchange} {a : α} {b : β}
    (h : p.EndsAfter run a) (hk : (k a).EndsAfter more b) : (p >>= k).EndsAfter (run ++ more) b := by
  induction h with
  | done a => exact hk
  | ask answer _ ih => exact .ask answer (ih hk)
  | draw key _ ih => exact .draw key (ih hk)

theorem endsAfter_lift {r : Outcome α} {a : α} (h : r = .ok a) : (lift r).EndsAfter [] a := by
  rw [h]
  exact .done a

theorem endsAfter_lift_bind {r : Outcome α} {k : α → Program β} {run : List Exchange} {a : α} {b : β} (h : r = .ok a)
    (hk : (k a).EndsAfter run b) : (lift r >>= k).EndsAfter run b := by
  rw [h]
  exact hk

/-- A failure is none of a run that ends: no more answers lead from there to a result. -/
theorem course_of_endsAfter : ∀ {p : Program α} {past : List Exchange}, p.Course (fun _ _ => True)
    (fun now _ => ∃ run, now = past ++ run ∧ ∀ more a, ¬ p.EndsAfter (run ++ more) a) (fun _ _ => True) past
  | .done _, _ => trivial
  | .fail _, past => ⟨[], (List.append_nil past).symm, fun _ _ h => nomatch h⟩
  | .ask r next, past => by
    refine ⟨trivial, fun answer => course_of_endsAfter.mono (fun _ _ h => h) ?_ fun _ _ h => h⟩
    rintro _ _ ⟨run, rfl, hnone⟩
    refine ⟨.answered r answer :: run, List.append_assoc _ _ _, fun more a h => ?_⟩
    cases h with
    | ask _ h => exact hnone more a h
  | .draw next, past => by
    intro key
    refine course_of_endsAfter.mono (fun _ _ h => h) ?_ fun _ _ h => h
    rintro _ _ ⟨run, rfl, hnone⟩
    refine ⟨.drawn key :: run, List.append_assoc _ _ _, fun more a h => ?_⟩
    cases h with
    | draw _ h => exact hnone more a h

theorem endsAfter_fetchRows {st : Statement} {timeout : Value} (rows : List Row) :
    (fetchRows st timeout).EndsAfter [.answered ⟨.rows, st, timeout⟩ rows] rows :=
  @EndsAfter.ask (List Row) ⟨.rows, st, timeout⟩ done rows [] rows (.done rows)

end Program

namespace Preload
variable {d : Dialect} {timeout : Value} {link : Link} {rows found : List Row}

/-! ### Keys -/

/-- A list of keys has each key of a column once: no two of them are the same, each is held by a row and is not null,
    and none that a row holds is missing. -/
structure OnceEach (column : String) (rows : List Row) (keys : List Value) : Prop where
  apart : keys.Pairwise fun earlier later => later.same earlier = false
  held : ∀ key ∈ keys, key.isNull = false ∧ ∃ row ∈ rows, row.getD column = key
  complete : ∀ row ∈ rows, (row.getD column).isNull = false →
    row.getD column ∈ keys ∨ (row.getD column).isAmong keys = true

theorem onceEach_distinctKeys (column : String) (rows : List Row) :
    OnceEach column rows (distinctKeys column rows) := by
  -- From the end, since a key is compared with those of the rows in front of it.
  induction rows using List.reverseRecOn with
  | nil => exact ⟨.nil, List.forall_mem_nil _, List.forall_mem_nil _⟩
  | append_singleton rows row ih =>
    have hstep : distinctKeys column (rows ++ [row]) =
        if (row.getD column).isNull || (row.getD column).isAmong (distinctKeys column rows)
        then distinctKeys column rows else distinctKeys column rows ++ [row.getD column] := List.foldl_concat ..
    have hheld : ∀ key ∈ distinctKeys column rows, key.isNull = false ∧ ∃ r ∈ rows ++ [row], r.getD column = key := by
      intro key hkey
      obtain ⟨hnull, r, hr, heq⟩ := ih.held key hkey
      exact ⟨hnull, r, List.mem_append_left _ hr, heq⟩
    rw [hstep]
    split
    · rename_i hseen
      refine ⟨ih.apart, hheld, List.forall_mem_append.mpr ⟨ih.complete, List.forall_mem_singleton.mpr fun hnull => ?_⟩⟩
      rw [hnull, Bool.false_or] at hseen
      exact .inr hseen
    · rename_i hnew
      obtain ⟨hnull, hamong⟩ := Bool.or_eq_false_iff.mp (Bool.eq_false_iff.mpr hnew)
      refine ⟨?_, List.forall_mem_append.mpr ⟨hheld, List.forall_mem_singleton.mpr ⟨hnull, row, ?_, rfl⟩⟩,
        List.forall_mem_append.mpr ⟨fun r hr hnonnull => ?_, List.forall_mem_singleton.mpr fun _ => ?_⟩⟩
      · refine List.pairwise_append.mpr ⟨ih.apart, List.pairwise_singleton _ _, fun earlier hearlier later hlater => ?_⟩
        rw [List.mem_singleton.mp hlater]
        exact Bool.eq_false_iff.mpr (List.any_eq_false.mp hamong earlier hearlier)
      · exact List.mem_append_right _ (List.mem_singleton_self _)
      · refine (ih.complete r hr hnonnull).imp (List.mem_append_left _) fun h => ?_
        unfold Value.isAmong at h ⊢
        rw [List.any_append, h, Bool.true_or]
      · exact .inl (List.mem_append_right _ (List.mem_singleton_self _))

theorem distinctKeys_map {column : String} {g : Row → Row} (h : ∀ row ∈ rows, (g row).getD column = row.getD column) :
    distinctKeys column (rows.map g) = distinctKeys column rows := by
  unfold distinctKeys
  rw [List.foldl_map]
  exact List.foldl_ext _ _ _ fun keys row hrow => by rw [h row hrow]

theorem distinctKeys_eq_nil {column : String} (h : ∀ row ∈ rows, (row.getD column).isNull = true) :
    distinctKeys column rows = [] := by
  refine List.eq_nil_iff_forall_not_mem.mpr fun key hkey => ?_
  obtain ⟨hnull, row, hrow, rfl⟩ := (onceEach_distinctKeys column rows).held key hkey
  rw [h row hrow] at hnull
  cases hnull

section
variable (hamong : ∀ child ∈ found, (child.getD link.remoteKey).isAmong (distinctKeys link.localKey rows) = true)
include hamong

/-- A found row has the key of one of the rows that were loaded for, which is not null. -/
theorem exists_key_of_found {child : Row} (hchild : child ∈ found) : ∃ row ∈ rows,
    (row.getD link.localKey).isNull = false ∧ (child.getD link.remoteKey).same (row.getD link.localKey) = true := by
  obtain ⟨key, hkey, hsame⟩ := List.any_eq_true.mp (hamong child hchild)
  obtain ⟨hnull, row, hrow, rfl⟩ := (onceEach_distinctKeys _ rows).held key hkey
  exact ⟨row, hrow, hnull, hsame⟩

theorem belonging_eq_nil {row : Row} (hnull : (row.getD link.localKey).isNull = true) :
    link.belonging row found = [] := by
  refine List.filter_eq_nil_iff.mpr fun child hchild hsame => ?_
  obtain ⟨parent, -, hparent, hkey⟩ := exists_key_of_found hamong hchild
  rw [Value.eq_null_of_isNull hnull] at hsame
  rw [Value.eq_null_of_isNull (Value.isNull_of_null_same hsame)] at hkey
  rw [Value.isNull_of_null_same hkey] at hparent
  cases hparent

theorem exists_belonging (hscalar : ∀ row ∈ rows, (row.getD link.localKey).isScalar = true) {child : Row}
    (hchild : child ∈ found) : ∃ row ∈ rows, child ∈ link.belonging row found := by
  obtain ⟨row, hrow, -, hkey⟩ := exists_key_of_found hamong hchild
  exact ⟨row, hrow, List.mem_filter.mpr ⟨hchild, Value.same_symm hkey (hscalar row hrow)⟩⟩

end

/-! ### Answers -/

/-- What a store may answer while the relations of nodes are loaded for rows, and what is found thereby. A relation for
    which no row has a key is not asked for. Otherwise one statement asks for the rows of the keys, each named once; the
    answer is decoded and holds only rows of these keys; and what it holds is loaded for in turn. -/
inductive Answered (d : Dialect) (timeout : Value) :
    List Row → List Preload → List Exchange → List Findings → Prop
  | nil {rows : List Row} : Answered d timeout rows [] [] []
  | idle {rows : List Row} {link : Link} {target : Table} {children nodes : List Preload} {run : List Exchange}
    {findings below : List Findings} : (∀ row ∈ rows, (row.getD link.localKey).isNull = true) →
    Answered d timeout [] children [] below → Answered d timeout rows nodes run findings →
    Answered d timeout rows (.node link target children :: nodes) run (.node [] below :: findings)
  | asked {rows found raw : List Row} {link : Link} {target : Table} {children nodes : List Preload}
    {run runBelow : List Exchange} {findings below : List Findings} : distinctKeys link.localKey rows ≠ [] →
    raw.mapM (Row.decode none) = .ok found →
    (∀ row ∈ found, (row.getD link.remoteKey).isAmong (distinctKeys link.localKey rows) = true) →
    Keyed children found → Answered d timeout found children runBelow below →
    Answered d timeout rows nodes run findings →
    Answered d timeout rows (.node link target children :: nodes)
      (.answered ⟨.rows, statement d link target (distinctKeys link.localKey rows), timeout⟩ raw :: (runBelow ++ run))
      (.node found below :: findings)

theorem attach_eq_ok (hfound : ∀ row ∈ found, (row.getD link.remoteKey).keyFault? = none)
    (hrows : ∀ row ∈ rows, (row.getD link.localKey).keyFault? = none) : attach link rows found =
      .ok (rows.map fun row => row.put link.name (link.holding (link.belonging row found))) := by
  have hkey {v : Value} (h : v.keyFault? = none) : v.asKey = .ok v := by
    unfold Value.asKey
    rw [h]
  have hremote : found.mapM (fun row => (row.getD link.remoteKey).asKey) =
      .ok (found.map fun row => row.getD link.remoteKey) := mapM_eq_ok_map fun row hrow => hkey (hfound row hrow)
  unfold attach
  rw [hremote]
  refine mapM_eq_ok_map fun row hrow => ?_
  rw [hkey (hrows row hrow)]
  rfl

/-- The rows that belong to a row are found by columns that the rows below do not overwrite. -/
theorem belonging_map {g : Row → Row} {row row' : Row} (hrow : row'.getD link.localKey = row.getD link.localKey)
    (hg : ∀ child ∈ found, (g child).getD link.remoteKey = child.getD link.remoteKey) :
    link.belonging row' (found.map g) = (link.belonging row found).map g := by
  unfold Link.belonging
  rw [List.filter_map, hrow]
  refine congrArg (List.map g) (List.filter_congr fun child hchild => ?_)
  rw [Function.comp_apply, hg child hchild]

section
variable {n : Preload} {nodes : List Preload} {f : Findings} {findings : List Findings} {run more : List Exchange}
  {g : Row → Row}

/-- Loading the relations of nodes loads the first one, and then the others for the rows with the first one
    attached. -/
theorem endsAfter_cons
    (hload : (load d timeout (rows.map g) n).EndsAfter run
      (rows.map fun row => (g row).put n.link.name (entry row n f).2))
    (hrest : (loadAll d timeout (rows.map fun row => (g row).put n.link.name (entry row n f).2) nodes).EndsAfter more
      (rows.map fun row => Writer.overlay ((g row).put n.link.name (entry row n f).2) (entries row nodes findings))) :
    (loadAll d timeout (rows.map g) (n :: nodes)).EndsAfter (run ++ more)
      (rows.map fun row => Writer.overlay (g row) (entries row (n :: nodes) (f :: findings))) := by
  have hjoined : (rows.map fun row => Writer.overlay (g row) (entries row (n :: nodes) (f :: findings))) =
      rows.map fun row => Writer.overlay ((g row).put n.link.name (entry row n f).2) (entries row nodes findings) := by
    refine List.map_congr_left fun row _ => ?_
    rw [entries, ← name_entry row n f]
    rfl
  rw [hjoined]
  unfold loadAll
  exact hload.bind hrest

variable {target : Table} {children : List Preload} {below : List Findings} {runBelow : List Exchange} {raw : List Row}
  (hg : ∀ row ∈ rows, (g row).getD link.localKey = row.getD link.localKey)
  (hkeyed : ∀ row ∈ rows, (row.getD link.localKey).IsKey)
include hg hkeyed

theorem endsAfter_load_idle (hnull : ∀ row ∈ rows, (row.getD link.localKey).isNull = true) :
    (load d timeout (rows.map g) (.node link target children)).EndsAfter []
      (rows.map fun row => (g row).put link.name (entry row (.node link target children) (.node [] below)).2) := by
  have hkeys : distinctKeys link.localKey (rows.map g) = [] := by
    rw [distinctKeys_map hg, distinctKeys_eq_nil hnull]
  have hattach : attach link (rows.map g) [] =
      .ok (rows.map fun row => (g row).put link.name (entry row (.node link target children) (.node [] below)).2) := by
    rw [attach_eq_ok (List.forall_mem_nil _), List.map_map]
    · rfl
    · refine List.forall_mem_map.mpr fun row hrow => ?_
      rw [hg row hrow]
      exact (hkeyed row hrow).2
  unfold load
  dsimp only
  rw [hkeys]
  exact endsAfter_lift hattach

theorem endsAfter_load_asked (hkeys : distinctKeys link.localKey rows ≠ [])
    (hraw : raw.mapM (Row.decode none) = .ok found)
    (hamong : ∀ row ∈ found, (row.getD link.remoteKey).isAmong (distinctKeys link.localKey rows) = true)
    (hremote : ∀ child ∈ found, (joined children below child).getD link.remoteKey = child.getD link.remoteKey)
    (hbelow : (loadAll d timeout found children).EndsAfter runBelow (found.map (joined children below))) :
    (load d timeout (rows.map g) (.node link target children)).EndsAfter
      (.answered ⟨.rows, statement d link target (distinctKeys link.localKey rows), timeout⟩ raw :: runBelow)
      (rows.map fun row => (g row).put link.name (entry row (.node link target children) (.node found below)).2) := by
  have hkey : ∀ child ∈ found, (child.getD link.remoteKey).IsKey := by
    intro child hchild
    obtain ⟨row, hrow, -, hsame⟩ := exists_key_of_found hamong hchild
    exact Value.isKey_of_same hsame (hkeyed row hrow).1
  have hattach : attach link (rows.map g) (found.map (joined children below)) = .ok (rows.map fun row =>
      (g row).put link.name (entry row (.node link target children) (.node found below)).2) := by
    rw [attach_eq_ok, List.map_map]
    · refine congrArg Except.ok (List.map_congr_left fun row hrow => ?_)
      rw [Function.comp_apply, belonging_map (hg row hrow) hremote]
      rfl
    · refine List.forall_mem_map.mpr fun child hchild => ?_
      rw [hremote child hchild]
      exact (hkey child hchild).2
    · refine List.forall_mem_map.mpr fun row hrow => ?_
      rw [hg row hrow]
      exact (hkeyed row hrow).2
  unfold load
  dsimp only
  rw [distinctKeys_map hg, if_neg (mt List.isEmpty_iff.mp hkeys), ← List.append_nil runBelow]
  exact (endsAfter_fetchRows raw).bind (endsAfter_lift_bind hraw (hbelow.bind (endsAfter_lift hattach)))

end

/-- The columns by which nodes are joined outlast the first of them. -/
theorem Apart.getD_put {n : Preload} {nodes : List Preload} {g : Row → Row} (h : Apart (n :: nodes))
    (hg : ∀ m ∈ n :: nodes, ∀ row ∈ rows, (g row).getD m.link.localKey = row.getD m.link.localKey) (v : Row → Value) :
    ∀ m ∈ nodes, ∀ row ∈ rows, ((g row).put n.link.name (v row)).getD m.link.localKey = row.getD m.link.localKey := by
  intro m hm row hrow
  have hne : n.link.name ≠ m.link.localKey := h.localKey_ne List.mem_cons_self (List.mem_cons_of_mem _ hm)
  exact (Row.getD_put_of_ne hne).trans (hg m (List.mem_cons_of_mem _ hm) row hrow)

/-- With answers that are what they should be, loading asks what they answer and ends with the joined rows. The rows
    may hold more than was joined for, as long as they hold the same keys. -/
theorem Answered.endsAfter_of_keys {nodes : List Preload} {run : List Exchange} {findings : List Findings}
    (h : Answered d timeout rows nodes run findings) : ∀ g : Row → Row, Distinct nodes → Apart nodes →
      Keyed nodes rows → (∀ n ∈ nodes, ∀ row ∈ rows, (g row).getD n.link.localKey = row.getD n.link.localKey) →
      (loadAll d timeout (rows.map g) nodes).EndsAfter run
        (rows.map fun row => Writer.overlay (g row) (entries row nodes findings)) := by
  -- On what is answered. The rows that come to the next node are others, so `g` differs from node to node.
  induction h with
  | nil =>
    intro g _ _ _ _
    unfold loadAll
    exact .done _
  | idle hnull _ _ _ ih =>
    intro g hdistinct hapart hkeyed hg
    refine endsAfter_cons (endsAfter_load_idle (hg _ List.mem_cons_self) (hkeyed _ List.mem_cons_self) hnull) ?_
    exact ih _ hdistinct.tail hapart.tail hkeyed.tail (hapart.getD_put hg _)
  | asked hkeys hraw hamong hfit _ _ ihBelow ih =>
    intro g hdistinct hapart hkeyed hg
    have hchildren := hdistinct.children List.mem_cons_self
    have hremote := hapart.remoteKey_notMem List.mem_cons_self
    have hbelow := ihBelow id hchildren (hapart.children List.mem_cons_self) hfit fun _ _ _ _ => rfl
    rw [List.map_id] at hbelow
    refine endsAfter_cons (endsAfter_load_asked (hg _ List.mem_cons_self) (hkeyed _ List.mem_cons_self) hkeys hraw
      hamong (fun _ _ => getD_joined hchildren.nodup hremote) hbelow) ?_
    exact ih _ hdistinct.tail hapart.tail hkeyed.tail (hapart.getD_put hg _)

/-! ### What is asked -/

/-- The question for the rows of a target that have one of some keys and are not stamped as deleted. -/
def inQuery (d : Dialect) (link : Link) (target : Table) (keys : List Value) : Statement :=
  ⟨"SELECT * FROM " ++ d.quote target.name ++ " WHERE " ++ d.quote link.remoteKey ++ " IN (?)" ++
    (match target.softDelete with
      | some column => " AND " ++ d.quote column ++ " IS NULL"
      | none => ""), [.members keys]⟩

theorem statement_eq (d : Dialect) (link : Link) (target : Table) (keys : List Value) :
    statement d link target keys = inQuery d link target keys := by
  unfold statement inQuery Table.notDeleted
  cases target.softDelete <;>
    simp [Predicate.and, Predicate.all, Predicate.join, Predicate.whereClause, Predicate.isNone, Predicate.none,
      joinWith, ← String.append_assoc]

/-- A question about a visit, and the answer: it names each key of the parents once, and what was found is what the
    answer holds. -/
def Visit.Asks (d : Dialect) (timeout : Value) (v : Visit) (e : Exchange) : Prop :=
  ∃ keys raw, OnceEach v.node.link.localKey v.parents keys ∧ raw.mapM (Row.decode none) = .ok v.found.rows ∧
    e = .answered ⟨.rows, inQuery d v.node.link v.node.target keys, timeout⟩ raw

section
variable {nodes : List Preload} {run : List Exchange} {findings : List Findings}

/-- Just the visits on which a parent has a key are asked about, one after another. -/
theorem Answered.asks (h : Answered d timeout rows nodes run findings) :
    List.Forall₂ (Visit.Asks d timeout) ((visits rows nodes findings).filter Visit.hasKeys) run := by
  induction h with
  | nil => exact .nil
  | @idle rows link target children _ _ _ below hnull _ _ ihBelow ih =>
    -- Without rows there is no key further below either.
    have hkeys : Visit.hasKeys ⟨rows, .node link target children, .node [] below⟩ = false :=
      Visit.hasKeys_eq_false_iff.mpr hnull
    rw [visits, visit, List.cons_append, List.filter_cons_of_neg (ne_true_of_eq_false hkeys), List.filter_append,
      List.forall₂_nil_right_iff.mp ihBelow, List.nil_append]
    exact ih
  | @asked rows found raw link target children _ _ _ _ below hsome hraw _ _ _ _ ihBelow ih =>
    have hkeys : Visit.hasKeys ⟨rows, .node link target children, .node found below⟩ = true :=
      eq_true_of_ne_false fun hnone => hsome (distinctKeys_eq_nil (Visit.hasKeys_eq_false_iff.mp hnone))
    rw [visits, visit, List.cons_append, List.filter_cons_of_pos hkeys, List.filter_append]
    refine .cons ⟨_, raw, onceEach_distinctKeys _ rows, hraw, by rw [statement_eq]; rfl⟩ ?_
    exact List.rel_append ihBelow ih

/-! ### What rows hold -/

/-- Rows joined with what was found keep all columns but those named like relations, hold under the name of each
    relation just the found rows that belong to them, in the order of the answer, and nothing if they have no key. Every
    row that was found belongs to one of them, and carries what was found below in the same way. -/
inductive Carried : List Row → List Preload → List Findings → Prop
  | mk {rows : List Row} {nodes : List Preload} {findings : List Findings}
    (paired : nodes.length = findings.length)
    (kept : ∀ row ∈ rows, ∀ c ∉ names nodes, (joined nodes findings row).get? c = row.get? c)
    (attached : ∀ row ∈ rows, ∀ n f, (n, f) ∈ nodes.zip findings → (joined nodes findings row).get? n.link.name =
      some (n.link.holding ((n.link.belonging row f.rows).map (joined n.children f.beneath))))
    (unkeyed : ∀ row ∈ rows, ∀ n f, (n, f) ∈ nodes.zip findings → (row.getD n.link.localKey).isNull = true →
      n.link.belonging row f.rows = [])
    (complete : ∀ n f, (n, f) ∈ nodes.zip findings → ∀ child ∈ f.rows, ∃ row ∈ rows,
      child ∈ n.link.belonging row f.rows)
    (below : ∀ n f, (n, f) ∈ nodes.zip findings → Carried f.rows n.children f.beneath) :
    Carried rows nodes findings

theorem Carried.cons {n : Preload} {f : Findings} (hnames : (names (n :: nodes)).Nodup)
    (hunkeyed : ∀ row ∈ rows, (row.getD n.link.localKey).isNull = true → n.link.belonging row f.rows = [])
    (hcomplete : ∀ child ∈ f.rows, ∃ row ∈ rows, child ∈ n.link.belonging row f.rows)
    (hbelow : Carried f.rows n.children f.beneath) (h : Carried rows nodes findings) :
    Carried rows (n :: nodes) (f :: findings) := by
  obtain ⟨hpaired, -, -, hunkeyed', hcomplete', hbelow'⟩ := h
  refine ⟨by rw [List.length_cons, List.length_cons, hpaired], fun row _ c hc => get?_joined_of_notMem hnames hc,
    fun row _ m g hmem => get?_joined_of_mem hnames hmem, fun row hrow m g hmem => ?_, fun m g hmem => ?_,
    fun m g hmem => ?_⟩
  all_goals
    rw [List.zip_cons_cons, List.mem_cons] at hmem
    rcases hmem with heq | hmem
  · cases heq
    exact hunkeyed row hrow
  · exact hunkeyed' row hrow m g hmem
  · cases heq
    exact hcomplete
  · exact hcomplete' m g hmem
  · cases heq
    exact hbelow
  · exact hbelow' m g hmem

theorem Answered.carried (h : Answered d timeout rows nodes run findings) :
    Distinct nodes → Keyed nodes rows → Carried rows nodes findings := by
  induction h with
  | @nil rows =>
    intro _ _
    have hnone {n : Preload} {f : Findings} (hmem : (n, f) ∈ ([] : List Preload).zip ([] : List Findings)) : False :=
      List.not_mem_nil hmem
    exact .mk rfl (fun _ _ _ _ => rfl) (fun _ _ _ _ hmem => (hnone hmem).elim) (fun _ _ _ _ hmem => (hnone hmem).elim)
      (fun _ _ hmem => (hnone hmem).elim) (fun _ _ hmem => (hnone hmem).elim)
  | idle _ _ _ ihBelow ih =>
    intro hdistinct hkeyed
    refine .cons hdistinct.nodup (fun _ _ _ => rfl) (List.forall_mem_nil _) ?_ (ih hdistinct.tail hkeyed.tail)
    exact ihBelow (hdistinct.children List.mem_cons_self) fun _ _ => List.forall_mem_nil _
  | asked _ _ hamong hfit _ _ ihBelow ih =>
    intro hdistinct hkeyed
    refine .cons hdistinct.nodup (fun row _ => belonging_eq_nil hamong) (fun child => ?_)
      (ihBelow (hdistinct.children List.mem_cons_self) hfit) (ih hdistinct.tail hkeyed.tail)
    exact exists_belonging hamong fun row hrow => (hkeyed _ List.mem_cons_self row hrow).1

/-- Loading the relations of a tree joins rows with the rows of all its relations. If no relation has the name of a
    column that is joined by, and if these columns hold values that can be looked up, then whatever is answered with
    rows of the requested keys, the rows come out joined with the answers: each keeps its columns, holds for each
    relation the answered rows of its key, and these hold what belongs to them in turn. Each relation is asked for once,
    for keys that are named once each, or not at all if there are none. The loading fails only on other answers. -/
theorem loadAll_joins (d : Dialect) (timeout : Value) {nodes : List Preload} {rows : List Row}
    (hdistinct : Distinct nodes) (hapart : Apart nodes) (hkeyed : Keyed nodes rows) :
    (∀ run findings, Answered d timeout rows nodes run findings →
      (loadAll d timeout rows nodes).EndsAfter run (rows.map (joined nodes findings)) ∧
      Carried rows nodes findings ∧
      List.Forall₂ (Visit.Asks d timeout) ((visits rows nodes findings).filter Visit.hasKeys) run) ∧
    (loadAll d timeout rows nodes).Course (fun _ _ => True)
      (fun past _ => ∀ more findings, ¬ Answered d timeout rows nodes (past ++ more) findings)
      (fun _ _ => True) [] := by
  have hends : ∀ {run findings}, Answered d timeout rows nodes run findings →
      (loadAll d timeout rows nodes).EndsAfter run (rows.map (joined nodes findings)) := by
    intro run findings h
    have hjoined := h.endsAfter_of_keys id hdistinct hapart hkeyed fun _ _ _ _ => rfl
    rwa [List.map_id] at hjoined
  refine ⟨fun run findings h => ⟨hends h, h.carried hdistinct hkeyed, h.asks⟩, ?_⟩
  refine course_of_endsAfter.mono (fun _ _ h => h) ?_ fun _ _ h => h
  rintro _ _ ⟨run, rfl, hnone⟩ more findings h
  exact hnone more _ (hends h)

/-- Two users and one who has no key yet. The first has two posts, one of them with a comment. -/
theorem loadAll_joins_users :
    let post (id user : String) : Row := [("id", .text id), ("user_id", .text user)]
    let comment : Row := [("id", .text "z"), ("post_id", .text "q")]
    let users : List Row := [[("id", .text "a")], [("id", .text "b")], [("name", .text "c")]]
    let comments : Table := ⟨"comments", "id", false, none, none, none, []⟩
    let posts : Table :=
      ⟨"posts", "id", false, none, none, some "gone", [(⟨"comments", "id", "post_id", true⟩, comments)]⟩
    let nodes : List Preload := [.node ⟨"posts", "id", "user_id", true⟩ posts
      [.node ⟨"comments", "id", "post_id", true⟩ comments []]]
    let asked (sql : String) (keys : List String) : Request := ⟨.rows, ⟨sql, [.members (keys.map .text)]⟩, .null⟩
    let run : List Exchange := [
      .answered (asked "SELECT * FROM \"posts\" WHERE \"user_id\" IN (?) AND \"gone\" IS NULL" ["a", "b"])
        [post "p" "a", post "q" "a"],
      .answered (asked "SELECT * FROM \"comments\" WHERE \"post_id\" IN (?)" ["p", "q"]) [comment]]
    (Distinct nodes ∧ Apart nodes ∧ Keyed nodes users) ∧
    (loadAll .sqlite .null users nodes).EndsAfter run
      [[("id", .text "a"), ("posts", .list [
          .dict (post "p" "a" ++ [("comments", .list [])]),
          .dict (post "q" "a" ++ [("comments", .list [.dict comment])])])],
        [("id", .text "b"), ("posts", .list [])],
        [("name", .text "c"), ("posts", .list [])]] := by
  intro post comment users comments posts nodes asked run
  have htree : ofPaths ⟨"users", "id", false, none, none, none, [(⟨"posts", "id", "user_id", true⟩, posts)]⟩
      [.text "posts.comments"] = .ok nodes := rfl
  have hdistinct : Distinct nodes := distinct_of_ofPaths htree
  have hapart : Apart nodes := apart_of_links (by decide)
  have hkeyed : Keyed nodes users := by
    refine List.forall_mem_singleton.mpr (List.forall_mem_cons.mpr ⟨⟨rfl, rfl⟩, ?_⟩)
    exact List.forall_mem_cons.mpr ⟨⟨rfl, rfl⟩, List.forall_mem_singleton.mpr ⟨rfl, rfl⟩⟩
  have hanswered : Answered .sqlite .null users nodes run
      [.node [post "p" "a", post "q" "a"] [.node [comment] []]] := by
    have hposts : (statement .sqlite ⟨"posts", "id", "user_id", true⟩ posts [.text "a", .text "b"]).sql =
        "SELECT * FROM \"posts\" WHERE \"user_id\" IN (?) AND \"gone\" IS NULL" := by decide +kernel
    have hcomments : (statement .sqlite ⟨"comments", "id", "post_id", true⟩ comments [.text "p", .text "q"]).sql =
        "SELECT * FROM \"comments\" WHERE \"post_id\" IN (?)" := by decide +kernel
    dsimp only [run]
    rw [← hposts, ← hcomments]
    refine @Answered.asked _ _ _ _ _ _ _ _ _ [] [_] _ _ (by exact List.cons_ne_nil _ _) rfl ?_ ?_ ?_ .nil
    · exact List.forall_mem_cons.mpr ⟨rfl, List.forall_mem_singleton.mpr rfl⟩
    · refine List.forall_mem_singleton.mpr (List.forall_mem_cons.mpr ⟨⟨rfl, rfl⟩, ?_⟩)
      exact List.forall_mem_singleton.mpr ⟨rfl, rfl⟩
    · refine @Answered.asked _ _ _ _ _ _ _ _ _ [] [] _ _ (by exact List.cons_ne_nil _ _) rfl ?_ (List.forall_mem_nil _)
        .nil .nil
      exact List.forall_mem_singleton.mpr rfl
  exact ⟨⟨hdistinct, hapart, hkeyed⟩, ((loadAll_joins .sqlite .null hdistinct hapart hkeyed).1 _ _ hanswered).1⟩

/-- A key that cannot be looked up: the question for its rows is asked, and on an answer without rows all is lost. -/
theorem loadAll_signaling :
    let posts : Table := ⟨"posts", "id", false, none, none, none, []⟩
    let nodes : List Preload := [.node ⟨"posts", "id", "user_id", true⟩ posts []]
    let nan : Value := .decimal (.nan false true "")
    let rows : List Row := [[("id", nan)]]
    let r : Request := ⟨.rows, ⟨"SELECT * FROM \"posts\" WHERE \"user_id\" IN (?)", [.members [nan]]⟩, .null⟩
    (Distinct nodes ∧ Apart nodes ∧ nan.isScalar = true ∧
      Answered .postgresql .null rows nodes [.answered r []] [.node [] []]) ∧
    ∃ next, loadAll .postgresql .null rows nodes = .ask r next ∧ next [] = .fail (.misuse .signalingKey) := by
  intro posts nodes nan rows r
  have hsql : (statement .postgresql ⟨"posts", "id", "user_id", true⟩ posts [nan]).sql =
      "SELECT * FROM \"posts\" WHERE \"user_id\" IN (?)" := by decide +kernel
  dsimp only [r]
  rw [← hsql]
  refine ⟨⟨?_, ?_, rfl, ?_⟩, _, by exact rfl, by exact rfl⟩
  · have htree : ofPaths ⟨"users", "id", false, none, none, none, [(⟨"posts", "id", "user_id", true⟩, posts)]⟩
        [.text "posts"] = .ok nodes := rfl
    exact distinct_of_ofPaths htree
  · exact apart_of_links (by decide)
  · exact .asked (by exact List.cons_ne_nil _ _) rfl (List.forall_mem_nil _) (List.forall_mem_nil _) .nil .nil

end

end Preload
end TableQuery
