import TableQuery.Proofs.LikeStatements
import TableQuery.Proofs.Operations
import TableQuery.Proofs.ReadRequests

/-! The text of statements does not depend on bound values. Two selections that differ in the values of their
    conditions, run side by side, ask statements of the same text, whatever the values are. -/

namespace TableQuery
open Program

/-- Two operations that read or delete, for keys and further queries that differ in values only. The time of a deletion
    is a value too. -/
inductive Operation.Alike : Operation → Operation → Prop
  | get : Alike get get
  | page : Alike page page
  | first : Alike first first
  | find {id id' : Value} : id.Alike id' → Alike (find id) (find id')
  | count : Alike count count
  | sum (field : Value) : Alike (sum field) (sum field)
  | average (field : Value) : Alike (average field) (average field)
  | exist : Alike exist exist
  | existsById {id id' : Value} : id.Alike id' → Alike (existsById id) (existsById id')
  | delete (now now' : Instant) : Alike (delete now) (delete now')
  | deleteById (now now' : Instant) {id id' : Value} {extra extra' : Option Query} : id.Alike id' →
    Option.Rel Query.Alike extra extra' → Alike (deleteById now id extra) (deleteById now' id' extra')

/-! ### Queries by key -/

/-- Of two values that are alike, a condition of equality takes both or neither. -/
theorem Condition.paired_make {v v' : Value} (h : v.Alike v') (field : String) :
    Paired Condition.Alike (make (.text field) v defaultOperator) (make (.text field) v' defaultOperator) := by
  have hmake (v : Value) : make (.text field) v defaultOperator =
      (checkValue field .eq (sealed v) >>= fun _ => .ok ⟨field, sealed v, .eq⟩) := rfl
  have hsealed := sealed_alike h
  rcases h.shape with ⟨hv, hv'⟩ | ⟨xs, xs', hxs, hxs', -⟩
  · have hscalar {v : Value} (hv : v.isScalar = true) : checkValue field .eq (sealed v) = .ok () := by
      rw [sealed_of_isScalar hv]
      simp [checkValue, Operator.isMembership, Operator.isRange, hv]
    rw [hmake, hmake, hscalar hv, hscalar hv']
    exact .ok ⟨rfl, rfl, hsealed, hscalar hv, hscalar hv'⟩
  · have hsequence {v : Value} {xs : List Value} (hxs : v.items? = some xs) :
        ∃ e, checkValue field .eq (sealed v) = .error e := by
      have hv : sealed v = .tuple xs := by simp [sealed, hxs]
      rw [hv]
      exact ⟨_, rfl⟩
    obtain ⟨e, he⟩ := hsequence hxs
    obtain ⟨e', he'⟩ := hsequence hxs'
    rw [hmake, hmake, he, he']
    exact .error e e'

theorem Query.Alike.append {q q' : Query} {gs gs' : List Group} (h : q.Alike q')
    (hgs : List.Forall₂ Group.Alike gs gs') : (q.withSearch gs).Alike (q'.withSearch gs') := by
  cases h with
  | search hsearch => exact .search (List.rel_append hsearch hgs)

theorem Query.Alike.merge {q q' extra extra' : Query} (h : q.Alike q') (hextra : extra.Alike extra') :
    (q.merge extra).Alike (q'.merge extra') := by
  cases h with
  | search hsearch =>
    cases hextra with
    | search hmore => exact .search (List.rel_append hsearch hmore)

namespace Selection
variable {s s' : Selection} {q q' : Query} {id id' timeout : Value} {apart : Bool}

theorem Alike.query (h : s.Alike s') : s.query.Alike s'.query := by
  cases h with
  | mk hq => exact hq

theorem Alike.withQuery (h : s.Alike s') (hq : q.Alike q') : (s.withQuery q).Alike (s'.withQuery q') := by
  cases h with
  | mk _ hraw => exact .mk (s := s.withQuery q) hq hraw

theorem Alike.callTimeout (h : s.Alike s') (timeout : Value) : s.callTimeout timeout = s'.callTimeout timeout := by
  cases h
  rfl

theorem queryById_alike (h : s.Alike s') (hid : id.Alike id') :
    Paired Query.Alike (s.queryById id) (s'.queryById id') := by
  have hquery := h.query
  cases h
  refine Paired.bind (R := Query.Alike) ?_ fun byId byId' hbyId => .ok ?_
  · refine (Condition.paired_make hid s.table.primaryKey).bind fun c c' hc => .ok ?_
    exact .search (.cons ⟨rfl, .cons hc .nil⟩ .nil)
  · cases hbyId with
    | search hsearch => exact hquery.append hsearch

/-! ### Reading -/

theorem abreast_fetch {st st' : Select} (h : s.Alike s') (hq : q.Alike q') (hst : st.Alike st')
    (preloads : List Preload) (timeout : Value) :
    (s.fetch st q preloads timeout).Abreast Statement.Alike (fun _ a b => a = b) apart
      (s'.fetch st' q' preloads timeout) := by
  have hrows := hst.rows (d := s.dialect)
  cases h
  cases hq
  refine (abreast_fetchRows hrows timeout).bind fun apart' raw raw' _ heq => ?_
  subst heq
  -- Both go on with the same rows, and the loading of relations does not look at the query any more.
  refine abreast_self Statement.alike_refl (always_lift_bind.mpr fun decoded _ => ?_)
  exact (Preload.always_loadAll preloads decoded fun _ _ _ _ _ _ => rfl).bind fun rows => always_lift.mpr fun _ _ => trivial

theorem bounds_alike (h : s.Alike s') (hq : q.Alike q') : s.bounds q = s'.bounds q' := by
  cases h
  cases hq
  rfl

theorem abreast_get (h : s.Alike s') :
    (s.get timeout).Abreast Statement.Alike (fun _ _ _ => True) apart (s'.get timeout) := by
  have hget (s : Selection) : s.get timeout = (lift (s.prepare s.query) >>= fun preloads =>
      lift (s.select s.query preloads) >>= fun st => s.fetch { st with
        limit := (s.bounds s.query).1, offset := (s.bounds s.query).2 } s.query preloads (s.callTimeout timeout)) := rfl
  rw [hget, hget, prepare_alike h h.query, bounds_alike h h.query, h.callTimeout]
  refine abreast_lift_bind (Paired.refl _) fun preloads _ hpreloads => ?_
  subst hpreloads
  refine abreast_lift_bind (select_alike h h.query preloads) fun st st' hst => ?_
  exact (abreast_fetch h h.query (hst.within _ _) preloads _).mono (fun _ _ h => h) fun _ _ _ _ => trivial

theorem abreast_first (h : s.Alike s') :
    (s.first timeout).Abreast Statement.Alike (fun _ _ _ => True) apart (s'.first timeout) := by
  unfold first
  dsimp only
  rw [prepare_alike h h.query, h.callTimeout]
  refine abreast_lift_bind (Paired.refl _) fun preloads _ hpreloads => ?_
  subst hpreloads
  refine abreast_lift_bind (select_alike h h.query preloads) fun st st' hst => ?_
  have hoffset : st.offset = st'.offset := by
    cases hst
    rfl
  rw [hoffset]
  refine (abreast_fetch h h.query (hst.within _ _) preloads _).bind fun _ rows _ _ hrows => ?_
  subst hrows
  cases rows with
  | nil => exact .fail _ _
  | cons row rows => exact .done trivial

/-! ### Counts and aggregates -/

theorem abreast_countWithin (h : s.Alike s') (limit : Value) :
    (s.countWithin limit).Abreast Statement.Alike (fun now _ _ => now = true) apart (s'.countWithin limit) := by
  have hdialect : s.dialect = s'.dialect := by
    cases h
    rfl
  refine abreast_lift_bind (aggregateSelect_alike h) fun st st' hst => ?_
  rw [hdialect]
  refine (abreast_fetchValue hst.count limit).bind fun apart' v v' _ hapart => ?_
  subst hapart
  exact abreast_lift_apart fun _ _ => rfl

theorem abreast_aggregate (h : s.Alike s') (function : String) (field : Value) :
    (s.aggregate function field timeout).Abreast Statement.Alike (fun now _ _ => now = true) apart
      (s'.aggregate function field timeout) := by
  have hdialect : s.dialect = s'.dialect := by
    cases h
    rfl
  refine abreast_lift_bind (aggregateSelect_alike h) fun st st' hst => ?_
  refine abreast_lift_bind (Paired.refl _) fun column _ hcolumn => ?_
  subst hcolumn
  rw [hdialect, h.callTimeout]
  exact abreast_fetchValue (hst.aggregate function column) _

theorem abreast_sum (h : s.Alike s') (field : Value) :
    (s.sum field timeout).Abreast Statement.Alike (fun _ _ _ => True) apart (s'.sum field timeout) := by
  refine (abreast_aggregate h "SUM" field).bind fun _ v v' _ hapart => ?_
  subst hapart
  exact abreast_lift_apart fun _ _ => trivial

theorem abreast_average (h : s.Alike s') (field : Value) :
    (s.average field timeout).Abreast Statement.Alike (fun _ _ _ => True) apart (s'.average field timeout) := by
  refine (abreast_aggregate h "AVG" field).bind fun _ v v' _ hapart => ?_
  subst hapart
  exact abreast_lift_apart fun _ _ => trivial

theorem abreast_count (h : s.Alike s') :
    (s.count timeout).Abreast Statement.Alike (fun now _ _ => now = true) apart (s'.count timeout) := by
  unfold count
  rw [h.callTimeout]
  exact abreast_countWithin h _

theorem abreast_exist (h : s.Alike s') :
    (s.exist timeout).Abreast Statement.Alike (fun now _ _ => now = true) apart (s'.exist timeout) :=
  (abreast_count h).bind fun _ _ _ _ hapart => .done hapart

theorem abreast_page (h : s.Alike s') :
    (s.page timeout).Abreast Statement.Alike (fun _ _ _ => True) apart (s'.page timeout) := by
  have hpage (s : Selection) : s.page timeout = (lift (s.prepare s.query) >>= fun preloads =>
      s.countWithin (s.callTimeout timeout) >>= fun total => lift (s.select s.query preloads) >>= fun st =>
        s.fetch { st with
          limit := some (s.query.effectivePageSize s.settings : Int)
          offset := some ((s.query.effectivePage s.settings - 1) * s.query.effectivePageSize s.settings : Int) }
          s.query preloads (s.callTimeout timeout) >>= fun data =>
        lift (lastPageOf total (s.query.effectivePageSize s.settings)) >>= fun last =>
          done ⟨s.query.effectivePage s.settings, total, last, data⟩) := rfl
  have hsize : s.query.effectivePageSize s.settings = s'.query.effectivePageSize s'.settings ∧
      s.query.effectivePage s.settings = s'.query.effectivePage s'.settings := by
    cases h with
    | mk hq =>
      cases hq
      exact ⟨rfl, rfl⟩
  rw [hpage, hpage, prepare_alike h h.query, hsize.1, hsize.2, h.callTimeout]
  refine abreast_lift_bind (Paired.refl _) fun preloads _ hpreloads => ?_
  subst hpreloads
  refine (abreast_countWithin h _).bind fun _ total total' _ hapart => ?_
  -- The totals may differ, so that one of the two may fail for its last page.
  subst hapart
  refine abreast_lift_bind (select_alike h h.query preloads) fun st st' hst => ?_
  refine (abreast_fetch h h.query (hst.within _ _) preloads _).bind fun now data data' hnow _ => ?_
  obtain rfl := hnow rfl
  exact (abreast_lift_apart fun _ _ => trivial).bind fun _ _ _ _ (_ : True) => .done trivial

/-! ### Deletion -/

theorem abreast_runDeletion (h : s.Alike s') {p p' : Predicate} (hp : p.Alike p') (now now' : Instant) (limit : Value) :
    (s.runDeletion now p limit).Abreast Statement.Alike (fun _ _ _ => True) apart (s'.runDeletion now' p' limit) :=
  (abreast_write (deletion_alike h hp now now') false limit).bind fun _ _ _ _ _ => .done trivial

theorem checkRestricted_alike (h : s.Alike s') (refusal : Misuse) :
    Paired (fun _ _ => True) (s.checkRestricted refusal) (s'.checkRestricted refusal) := by
  cases h with
  | @mk q' raw' hq hraw =>
    refine (Compiler.predicate_alike hq).bind fun own own' hown => ?_
    have hnone : own.isNone = own'.isNone := congrArg String.isEmpty (Predicate.alike_iff.mp hown).1
    have hempty : s.raw.isEmpty = raw'.isEmpty := by
      simpa using congrArg List.isEmpty hraw
    rw [hnone, hempty]
    split
    · exact .error _ _
    · exact .ok trivial

theorem abreast_delete (h : s.Alike s') (now now' : Instant) :
    (s.delete now timeout).Abreast Statement.Alike (fun _ _ _ => True) apart (s'.delete now' timeout) := by
  have hname : s.table.name = s'.table.name := by
    cases h
    rfl
  unfold delete
  dsimp only
  rw [Compiler.validate_alike h.query, hname, h.callTimeout]
  refine abreast_lift_bind (Paired.refl _) fun _ _ _ => ?_
  refine abreast_lift_bind (checkRestricted_alike h _) fun _ _ _ => ?_
  refine abreast_lift_bind (predicate_alike h h.query) fun p p' hp => ?_
  exact abreast_runDeletion h hp now now' _

theorem deletionQuery_alike (h : s.Alike s') (hid : id.Alike id') {extra extra' : Option Query}
    (hextra : Option.Rel Query.Alike extra extra') :
    Paired Query.Alike (s.deletionQuery id extra) (s'.deletionQuery id' extra') := by
  refine (queryById_alike h hid).bind fun q q' hq => ?_
  cases hextra with
  | none => exact .ok hq
  | some hextra => exact .ok (hq.merge hextra)

/-- The count may find rows for one of two deletions by key and none for the other, which then gives up. -/
theorem abreast_deleteById (h : s.Alike s') (hid : id.Alike id') {extra extra' : Option Query}
    (hextra : Option.Rel Query.Alike extra extra') (now now' : Instant) :
    (s.deleteById now id extra timeout).Abreast Statement.Alike (fun _ _ _ => True) apart
      (s'.deleteById now' id' extra' timeout) := by
  unfold deleteById
  dsimp only
  rw [h.callTimeout]
  refine abreast_lift_bind ((deletionQuery_alike h hid hextra).mapError _) fun q q' hq => ?_
  rw [Compiler.validate_alike hq]
  refine abreast_lift_bind (Paired.refl _) fun _ _ _ => ?_
  refine abreast_lift_bind (predicate_alike h hq) fun p p' hp => ?_
  have hreader : Alike { s with query := q, model := none, timeout := .null }
      { s' with query := q', model := none, timeout := .null } := by
    cases h with
    | mk _ hraw => exact Alike.mk hq hraw
  refine (abreast_exist hreader).bind fun _ found found' _ hapart => ?_
  subst hapart
  cases found with
  | false => exact .left _ _
  | true =>
    cases found' with
    | false => exact .right _ _
    | true => exact abreast_runDeletion h hp now now' _

/-! ### By key -/

theorem abreast_find (h : s.Alike s') (hid : id.Alike id') :
    (s.find id timeout).Abreast Statement.Alike (fun _ _ _ => True) apart (s'.find id' timeout) :=
  abreast_lift_bind ((queryById_alike h hid).mapError _) fun _ _ hq => abreast_first (h.withQuery hq)

theorem abreast_existsById (h : s.Alike s') (hid : id.Alike id') :
    (s.existsById id timeout).Abreast Statement.Alike (fun now _ _ => now = true) apart (s'.existsById id' timeout) :=
  abreast_lift_bind ((queryById_alike h hid).mapError _) fun _ _ hq => abreast_exist (h.withQuery hq)

end Selection

namespace Operation

theorem abreast_program {w w' : Writer} {op op' : Operation} (h : w.selection.Alike w'.selection) (hop : op.Alike op')
    (timeout : Value) :
    (op.program w timeout).Abreast Statement.Alike (fun _ _ _ => True) false (op'.program w' timeout) := by
  cases hop with
  | get => exact (Selection.abreast_get h).void
  | page => exact (Selection.abreast_page h).void
  | first => exact (Selection.abreast_first h).void
  | find hid => exact (Selection.abreast_find h hid).void
  | count => exact (Selection.abreast_count h).void
  | sum field => exact (Selection.abreast_sum h field).void
  | average field => exact (Selection.abreast_average h field).void
  | exist => exact (Selection.abreast_exist h).void
  | existsById hid => exact (Selection.abreast_existsById h hid).void
  | delete now now' => exact (Selection.abreast_delete h now now').void
  | deleteById now now' hid hextra => exact (Selection.abreast_deleteById h hid hextra now now').void

/-- Bound values never reach the text of a statement. Two operations whose queries, keys and conditions in statement
    text differ in values only ask the same statements one after another: rendered, their texts are the same, and they
    bind equally many parameters, unless the driver cannot take one of the values. Only the answers to a count may set
    them apart, for which one of the two may give up; neither ever asks for something of another text. -/
theorem texts_independent_of_values (w w' : Writer) (op op' : Operation) (timeout : Value)
    (h : w.selection.Alike w'.selection) (hop : op.Alike op') :
    (op.program w timeout).Abreast (Statement.RendersAlike w.selection.dialect) (fun _ _ _ => True) false
      (op'.program w' timeout) :=
  (abreast_program h hop timeout).mono (fun _ _ => Statement.Alike.rendersAlike) fun _ _ _ h => h

/-- A deletion by key under a pattern, a membership, a condition that is left out and a condition in statement text. -/
theorem texts_independent_of_values_posts :
    let posts : Table := ⟨"posts", "id", false, none, none, some "deleted_at", []⟩
    let conditions (title : String) (a b : Value) : List Condition :=
      [⟨"title", .text title, .like⟩, ⟨"author", .tuple [a, b], .isIn⟩, ⟨"body", .null, .eq⟩]
    let s (title : String) (a b arg : Value) : Selection :=
      ((Selection.all .postgresql posts .standard).withQuery
        (Query.empty.withSearch [⟨conditions title a b, .or⟩])).restrict "views > ?" [arg]
    let w : Writer := .ofSelection (s "lean" (.int 1) (.int 2) (.int 10))
    let w' : Writer := .ofSelection (s "x' OR '1' = '1" (.text "?") (.text "1); --") (.text "0 OR 1 = 1"))
    let op := deleteById ⟨⟨2024, 1, 1⟩, ⟨0, 0, 0, 0, none⟩⟩ (.int 1) none
    let op' := deleteById ⟨⟨2025, 1, 1⟩, ⟨0, 0, 0, 0, none⟩⟩ (.text "1 OR 1 = 1") none
    (w.selection.Alike w'.selection ∧ op.Alike op') ∧
      (op.program w .null).Abreast (Statement.RendersAlike .postgresql) (fun _ _ _ => True) false
        (op'.program w' .null) := by
  intro posts conditions s w w' op op'
  have hsingle {v v' : Value} (hv : v.isScalar = true ∧ v'.isScalar = true)
      (hblank : v.isBlankValue = v'.isBlankValue) : v.Alike v' := ⟨hblank, .inl hv⟩
  have hauthors : (Value.list [.int 1, .int 2]).Alike (.list [.text "?", .text "1); --"]) :=
    ⟨rfl, .inr ⟨_, _, rfl, rfl, rfl⟩⟩
  have hmake' : Condition.make (.text "author") (.list [.text "?", .text "1); --"]) (.text "in") =
      .ok ⟨"author", .tuple [.text "?", .text "1); --"], .isIn⟩ := rfl
  have hconditions : List.Forall₂ Condition.Alike (conditions "lean" (.int 1) (.int 2))
      (conditions "x' OR '1' = '1" (.text "?") (.text "1); --")) := by
    refine .cons ⟨rfl, rfl, hsingle ⟨rfl, rfl⟩ (by decide), rfl, rfl⟩ ?_
    refine .cons (Condition.alike_of_make hauthors rfl hmake') ?_
    exact .cons ⟨rfl, rfl, hsingle ⟨rfl, rfl⟩ rfl, rfl, rfl⟩ .nil
  have hraw : (Predicate.raw "views > ?" [.int 10]).Alike (Predicate.raw "views > ?" [.text "0 OR 1 = 1"]) :=
    Predicate.alike_raw "views > ?" (Value.map_places_of_plain rfl (by decide))
  have h : w.selection.Alike w'.selection :=
    .mk (.search (.cons ⟨rfl, hconditions⟩ .nil)) (congrArg (fun o => [o]) hraw)
  have hop : op.Alike op' := .deleteById _ _ (hsingle ⟨rfl, rfl⟩ (by decide)) .none
  exact ⟨⟨h, hop⟩, texts_independent_of_values w w' op op' .null h hop⟩

end Operation
end TableQuery
