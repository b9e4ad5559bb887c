import TableQuery.Proofs.Likeness
import TableQuery.Sql.Rendering

/-! Statements that look alike. They have the same text, and parameters that take the same places; the driver receives
    them in the same text too, with equally many parameters, unless it cannot take one of the values. -/

namespace TableQuery

/-- Two statements with the same text, and parameters that take the same places. -/
def Statement.Alike (st st' : Statement) : Prop := st.outline = st'.outline

/-- Two readings of a table that differ in the values of their restriction. -/
inductive Select.Alike (st : Select) : Select → Prop
  | mk {p : Predicate} : st.restriction.Alike p → Alike st { st with restriction := p }

/-- The values that a parameter binds: those that it is expanded to, else itself. -/
def Value.bound : Value → List Value
  | .members xs => xs
  | v => [v]

/-- The text and parameters of two renderings. They are written in the same text with equally many parameters, or both
    have the wrong number of parameters, or one of them has a value that the driver cannot take. -/
inductive Dialect.RenderedAlike (d : Dialect) (vs vs' : List Value) :
    Outcome (String × List Value) → Outcome (String × List Value) → Prop
  | written {text : String} {flat flat' : List Value} : flat.length = flat'.length →
    RenderedAlike d vs vs' (.ok (text, flat)) (.ok (text, flat'))
  | mismatch (m : Misuse) : RenderedAlike d vs vs' (.error (.misuse m)) (.error (.misuse m))
  | left {v : Value} {f : Failure} (r : Outcome (String × List Value)) : v ∈ vs → d.adapt v = .error f →
    RenderedAlike d vs vs' (.error f) r
  | right {v : Value} {f : Failure} (r : Outcome (String × List Value)) : v ∈ vs' → d.adapt v = .error f →
    RenderedAlike d vs vs' r (.error f)

/-- Two statements that reach the driver in the same text. -/
def Statement.RendersAlike (d : Dialect) (st st' : Statement) : Prop :=
  d.RenderedAlike (st.params.flatMap Value.bound) (st'.params.flatMap Value.bound) (d.render st.sql st.params)
    (d.render st'.sql st'.params)

/-! ### Statements on a table -/

namespace Statement

theorem alike_iff {st st' : Statement} :
    st.Alike st' ↔ st.sql = st'.sql ∧ st.params.map Value.places = st'.params.map Value.places := by
  simp [Alike, outline]

theorem alike_refl (st : Statement) : st.Alike st := rfl

end Statement

namespace Select
variable {st st' : Select} {d : Dialect}

theorem Alike.fromText (h : st.Alike st') : st.fromText d = st'.fromText d := by
  cases h with
  | mk hp =>
    unfold Select.fromText
    rw [hp.whereClause]

theorem Alike.params (h : st.Alike st') :
    st.restriction.params.map Value.places = st'.restriction.params.map Value.places := by
  cases h with
  | mk hp => exact (Predicate.alike_iff.mp hp).2

theorem Alike.within (h : st.Alike st') (limit offset : Option Int) :
    Alike { st with limit, offset } { st' with limit, offset } := by
  cases h with
  | mk hp => exact Alike.mk hp

theorem Alike.rows (h : st.Alike st') : (st.rows d).Alike (st'.rows d) := by
  refine Statement.alike_iff.mpr ⟨?_, ?_⟩
  · have hfrom := h.fromText (d := d)
    cases h
    show _ ++ _ ++ _ ++ st.fromText d ++ _ ++ _ = _
    rw [hfrom]
    rfl
  · show (st.restriction.params ++ _).map _ = (st'.restriction.params ++ _).map _
    rw [List.map_append, List.map_append, h.params]
    cases h
    rfl

theorem Alike.count (h : st.Alike st') : (st.count d).Alike (st'.count d) :=
  Statement.alike_iff.mpr ⟨congrArg ("SELECT COUNT(*) " ++ ·) h.fromText, h.params⟩

theorem Alike.aggregate (h : st.Alike st') (function column : String) :
    (st.aggregate d function column).Alike (st'.aggregate d function column) :=
  Statement.alike_iff.mpr ⟨congrArg (_ ++ ·) h.fromText, h.params⟩

end Select

namespace Selection
variable {s s' : Selection} {q q' : Query}

theorem select_alike (h : s.Alike s') (hq : q.Alike q') (preloads : List Preload) :
    Paired Select.Alike (s.select q preloads) (s'.select q' preloads) := by
  have hpredicate := predicate_alike h hq
  cases h
  cases hq
  refine (Paired.refl _).bind fun columns _ hcolumns => hpredicate.bind fun p p' hp => ?_
  refine (Paired.refl _).bind fun order _ horder => .ok ?_
  rw [← hcolumns, ← horder]
  exact .mk hp

theorem aggregateSelect_alike (h : s.Alike s') : Paired Select.Alike s.aggregateSelect s'.aggregateSelect := by
  have hquery : s.query.Alike s'.query := by
    cases h with
    | mk hq => exact hq
  have haggregate : s.query.forAggregate.Alike s'.query.forAggregate := by
    cases h with
    | mk hq =>
      cases hq with
      | search hsearch => exact .search hsearch
  unfold aggregateSelect
  rw [prepare_alike h hquery]
  refine (Paired.refl _).bind fun _ _ _ => (predicate_alike h haggregate).bind fun p p' hp => .ok ?_
  cases h
  exact .mk hp

/-- Deletions of the rows of predicates that are alike, at any time. -/
theorem deletion_alike {p p' : Predicate} (h : s.Alike s') (hp : p.Alike p') (now now' : Instant) :
    (s.deletion now p).Alike (s'.deletion now' p') := by
  obtain ⟨-, hparams⟩ := Predicate.alike_iff.mp hp
  cases h
  unfold deletion
  dsimp only
  rw [hp.whereClause]
  split
  · split
    · exact Statement.alike_iff.mpr ⟨rfl, congrArg (List.cons _) hparams⟩
    · exact Statement.alike_iff.mpr ⟨rfl, hparams⟩
  · exact Statement.alike_iff.mpr ⟨rfl, hparams⟩

end Selection

/-! ### Rendering -/

namespace Dialect
variable {d : Dialect}

/-- One rendering after another. -/
theorem RenderedAlike.bind {vs vs' ws ws' : List Value} {r r' : Outcome (String × List Value)}
    {k k' : String × List Value → Outcome (String × List Value)} (h : d.RenderedAlike vs vs' r r')
    (hk : ∀ text flat flat', flat.length = flat'.length → d.RenderedAlike ws ws' (k (text, flat)) (k' (text, flat'))) :
    d.RenderedAlike (vs ++ ws) (vs' ++ ws') (r >>= k) (r' >>= k') := by
  cases h with
  | mismatch m => exact .mismatch m
  | left r hv hf => exact .left _ (List.mem_append_left ws hv) hf
  | right r hv hf => exact .right _ (List.mem_append_left ws' hv) hf
  | @written text flat flat' hlength =>
    show d.RenderedAlike _ _ (k (text, flat)) (k' (text, flat'))
    generalize hrest : k (text, flat) = rest, hrest' : k' (text, flat') = rest'
    have hnext := hk text flat flat' hlength
    rw [hrest, hrest'] at hnext
    cases hnext with
    | written hlength => exact .written hlength
    | mismatch m => exact .mismatch m
    | left r hv hf => exact .left _ (List.mem_append_right vs hv) hf
    | right r hv hf => exact .right _ (List.mem_append_right vs' hv) hf

theorem RenderedAlike.map {vs vs' : List Value} {r r' : Outcome (String × List Value)} (write : String → String)
    {keep keep' : List Value → List Value} (h : d.RenderedAlike vs vs' r r')
    (hkeep : ∀ flat flat', flat.length = flat'.length → (keep flat).length = (keep' flat').length) :
    d.RenderedAlike vs vs' (r >>= fun (text, flat) => .ok (write text, keep flat))
      (r' >>= fun (text, flat) => .ok (write text, keep' flat)) := by
  have hmap : d.RenderedAlike (vs ++ []) (vs' ++ []) (r >>= fun (text, flat) => .ok (write text, keep flat))
      (r' >>= fun (text, flat) => .ok (write text, keep' flat)) :=
    h.bind fun _ _ _ hlength => .written (hkeep _ _ hlength)
  rwa [List.append_nil, List.append_nil] at hmap

theorem memberMarks_congr : ∀ {xs xs' : List Value} {next : Nat}, xs.length = xs'.length →
    d.memberMarks next xs = d.memberMarks next xs'
  | [], [], _, _ => rfl
  | _ :: xs, _ :: xs', next, h => by
    unfold memberMarks
    rw [memberMarks_congr (Nat.succ.inj h)]

theorem fill_of_places_eq_none {v : Value} (next : Nat) (h : v.places = none) : v.bound = [v] ∧
    d.fill next v = (d.adapt v >>= fun adapted => .ok (d.placeholder next, [adapted])) := by
  cases v <;> first | exact ⟨rfl, rfl⟩ | cases h

theorem eq_members_of_places {v : Value} {n : Nat} (h : v.places = some n) : ∃ xs, v = .members xs ∧ xs.length = n := by
  cases v with
  | members xs => exact ⟨xs, rfl, Option.some.inj h⟩
  | _ => cases h

/-- A placeholder is filled with the same marks for parameters that take the same places. -/
theorem fill_alike {v v' : Value} (h : v.places = v'.places) (next : Nat) :
    d.RenderedAlike v.bound v'.bound (d.fill next v) (d.fill next v') := by
  cases hplaces : v.places with
  | none =>
    obtain ⟨hbound, hfill⟩ := fill_of_places_eq_none (d := d) next hplaces
    obtain ⟨hbound', hfill'⟩ := fill_of_places_eq_none (d := d) next (h ▸ hplaces)
    rw [hbound, hbound', hfill, hfill']
    cases ha : d.adapt v with
    | error f => exact .left _ (List.mem_singleton_self v) ha
    | ok adapted =>
      cases ha' : d.adapt v' with
      | error f => exact .right _ (List.mem_singleton_self v') ha'
      | ok adapted' => exact .written rfl
  | some n =>
    -- One placeholder becomes as many marks as there are members, whatever the members are.
    obtain ⟨xs, rfl, hlength⟩ := eq_members_of_places hplaces
    obtain ⟨xs', rfl, hlength'⟩ := eq_members_of_places (h ▸ hplaces)
    show d.RenderedAlike xs xs' (xs.mapM d.adapt >>= fun flat => .ok (joinWith ", " (d.memberMarks next xs), flat))
      (xs'.mapM d.adapt >>= fun flat => .ok (joinWith ", " (d.memberMarks next xs'), flat))
    cases ha : xs.mapM d.adapt with
    | error f =>
      obtain ⟨x, hx, hf⟩ := mapM_eq_error ha
      exact .left _ hx hf
    | ok flat =>
      cases ha' : xs'.mapM d.adapt with
      | error f =>
        obtain ⟨x, hx, hf⟩ := mapM_eq_error ha'
        exact .right _ hx hf
      | ok flat' =>
        rw [memberMarks_congr (hlength.trans hlength'.symm)]
        refine .written ?_
        rw [← (mapM_eq_ok.mp ha).length_eq, ← (mapM_eq_ok.mp ha').length_eq, hlength, hlength']

theorem fillAll_alike : ∀ {pieces : List (List Char)} {params params' : List Value} {taken next : Nat},
    params.map Value.places = params'.map Value.places →
      d.RenderedAlike (params.flatMap Value.bound) (params'.flatMap Value.bound)
        (d.fillAll taken next pieces params) (d.fillAll taken next pieces params')
  | [], [], [], _, _, _ => .written rfl
  | [], v :: params, v' :: params', taken, _, h => by
    have hlength : (v :: params).length = (v' :: params').length := by simpa using congrArg List.length h
    unfold fillAll
    rw [hlength]
    exact .mismatch _
  | _ :: _, [], [], _, _, _ => .mismatch _
  | piece :: pieces, v :: params, v' :: params', taken, next, h => by
    obtain ⟨hv, hparams⟩ := List.cons.inj h
    unfold fillAll
    rw [List.flatMap_cons, List.flatMap_cons]
    refine (fill_alike hv next).bind fun mark here here' hlength => ?_
    dsimp only
    rw [hlength]
    refine (fillAll_alike hparams).map (fun text => mark ++ d.literalText (String.ofList piece) ++ text)
      fun flat flat' hflat => ?_
    rw [List.length_append, List.length_append, hlength, hflat]

end Dialect

/-- Statements that look alike reach the driver in the same text. -/
theorem Statement.Alike.rendersAlike {d : Dialect} {st st' : Statement} (h : st.Alike st') : RendersAlike d st st' := by
  obtain ⟨hsql, hparams⟩ := alike_iff.mp h
  unfold RendersAlike Dialect.render
  rw [hsql]
  split
  · exact .written rfl
  · exact (Dialect.fillAll_alike hparams).map (fun text => _ ++ text) fun _ _ hflat => hflat

end TableQuery
