import TableQuery.Proofs.Courses
import TableQuery.Selection.Reading

/-! How reading fails. The computations between the statements fail for the query, for the call or for a record that
    does not fit; the one error of the store that reading makes itself is that no row fits the query. -/

namespace TableQuery

/-- A failure that is found without the store. -/
def Failure.Local (f : Failure) : Prop := ∀ e cause, f ≠ .database e cause

namespace Program
variable {α β : Type} {P : Failure → Prop}

/-- Every failure of the program's own satisfies `P`, whatever the store answers. -/
def FailsWith (P : Failure → Prop) : Program α → Prop
  | .done _ => True
  | .fail f => P f
  | .ask _ next => ∀ answer, (next answer).FailsWith P
  | .draw next => ∀ key, (next key).FailsWith P

theorem FailsWith.mono {Q : Failure → Prop} (h : ∀ f, P f → Q f) : ∀ {p : Program α}, p.FailsWith P → p.FailsWith Q
  | .done _, _ => trivial
  | .fail f, hp => h f hp
  | .ask _ _, hp => fun answer => (hp answer).mono h
  | .draw _, hp => fun key => (hp key).mono h

theorem FailsWith.bind {k : α → Program β} :
    ∀ {p : Program α}, p.FailsWith P → (∀ a, (k a).FailsWith P) → (p >>= k).FailsWith P
  | .done a, _, hk => hk a
  | .fail _, h, _ => h
  | .ask _ _, h, hk => fun answer => (h answer).bind hk
  | .draw _, h, hk => fun key => (h key).bind hk

theorem failsWith_lift {r : Outcome α} (h : FailsOnly P r) : (lift r).FailsWith P := by
  cases r with
  | ok a => exact trivial
  | error f => exact h

theorem failsWith_lift_bind {r : Outcome α} {k : α → Program β} (h : FailsOnly P r) (hk : ∀ a, (k a).FailsWith P) :
    (lift r >>= k).FailsWith P := (failsWith_lift h).bind hk

/-- A program of which it is known what it asks and how it fails, whatever went before. -/
theorem Always.course {asks : Request → Prop} {ends : α → Prop} {asked : List Exchange → Request → Prop}
    {failed : List Exchange → Failure → Prop} (hr : ∀ past r, asks r → asked past r)
    (hf : ∀ past f, P f → failed past f) : ∀ {p : Program α} {past : List Exchange}, p.Always asks ends →
      p.FailsWith P → p.Course asked failed (fun _ a => ends a) past
  | .done _, _, h, _ => h
  | .fail f, past, _, h => hf past f h
  | .ask r _, past, h, hfails => ⟨hr past r h.1, fun answer => (h.2 answer).course hr hf (hfails answer)⟩
  | .draw _, _, h, hfails => fun key => (h key).course hr hf (hfails key)

end Program

/-! ### Computations between statements -/

theorem Compiler.failsOnly_ofQuery {α : Type} (r : Except QueryError α) : FailsOnly Failure.Local (ofQuery r) := by
  cases r with
  | ok a => exact trivial
  | error e => exact fun _ _ h => nomatch h

theorem Value.failsOnly_asKey (v : Value) : FailsOnly Failure.Local v.asKey := by
  unfold asKey
  split
  · exact fun _ _ h => nomatch h
  · exact trivial

theorem Value.failsOnly_toCount (v : Value) : FailsOnly Failure.Local v.toCount := by
  have htext (cs : List Char) (shown : String) : FailsOnly Failure.Local (integerOfText cs shown) := by
    unfold integerOfText
    split
    · exact trivial
    · exact fun _ _ h => nomatch h
    · exact fun _ _ h => nomatch h
  unfold toCount toInteger
  split
  · exact trivial
  · split
    case h_4 | h_6 =>
      split
      · exact trivial
      · exact fun _ _ h => nomatch h
    case h_7 | h_8 => exact htext _ _
    all_goals first | exact trivial | exact fun _ _ h => nomatch h

theorem Row.failsOnly_decodeColumn (v : Value) : FailsOnly Failure.Local (decodeColumn v) := by
  unfold decodeColumn
  extract_lets ofText
  have htext (s : String) : FailsOnly Failure.Local (ofText s) := by
    dsimp only [ofText]
    split
    · exact trivial
    · exact trivial
    · exact fun _ _ h => nomatch h
  split
  · exact htext _
  · split
    · exact htext _
    · exact fun _ _ h => nomatch h
  · exact trivial

theorem Row.failsOnly_decode (m : Option Model) (row : Row) : FailsOnly Failure.Local (row.decode m) := by
  have hdecoded (entry : String × Value) : FailsOnly Failure.Local (do
      let v ← decodeColumn entry.2
      (.ok (entry.1, v) : Outcome (String × Value))) :=
    (failsOnly_decodeColumn entry.2).bind fun _ _ => trivial
  unfold decode
  dsimp only
  refine FailsOnly.mapM fun entry _ => ?_
  cases m with
  | none | some m =>
    dsimp only
    split
    · exact hdecoded entry
    · exact trivial

theorem Row.failsOnly_toEntity (m : Model) (isPartial : Bool) (row : Row) :
    FailsOnly Failure.Local (row.toEntity m isPartial) := by
  unfold toEntity Model.validate
  split
  · exact trivial
  · split
    · exact trivial
    · exact fun _ _ h => nomatch h

namespace Compiler

theorem failsOnly_checkRequired (q : Query) : FailsOnly Failure.Local (checkRequired q) := by
  refine FailsOnly.forM fun v _ => ?_
  split
  · split
    · exact trivial
    · exact fun _ _ h => nomatch h
  · exact fun _ _ h => nomatch h
  · exact (Value.failsOnly_asKey _).bind fun _ _ _ _ h => nomatch h

theorem failsOnly_validate (q : Query) : FailsOnly Failure.Local (validate q) :=
  (failsOnly_checkRequired q).bind fun _ _ => (failsOnly_ofQuery _).bind fun _ _ => (failsOnly_ofQuery _).bind
    fun _ _ => (failsOnly_ofQuery _).bind fun _ _ => (failsOnly_ofQuery _).bind fun _ _ => failsOnly_ofQuery _

variable (c : Compiler)

theorem failsOnly_test (cond : Condition) : FailsOnly Failure.Local (c.test cond) := by
  have hrange : FailsOnly Failure.Local (rangeEnds cond.value) := by
    unfold rangeEnds
    split
    · exact trivial
    · exact fun _ _ h => nomatch h
    · exact fun _ _ h => nomatch h
  unfold test
  dsimp only
  split
  case h_5 | h_6 => exact hrange.bind fun _ _ => trivial
  case h_3 | h_4 => split <;> split <;> exact trivial
  all_goals exact trivial

theorem failsOnly_group (g : Group) : FailsOnly Failure.Local (c.group g) := by
  refine FailsOnly.bind (FailsOnly.mapM fun cond _ => ?_) fun _ _ => trivial
  refine (failsOnly_ofQuery _).bind fun _ _ => ?_
  split
  · exact trivial
  · exact c.failsOnly_test cond

theorem failsOnly_predicate (q : Query) : FailsOnly Failure.Local (c.predicate q) := by
  refine (failsOnly_checkRequired q).bind fun _ _ => FailsOnly.bind ?_ fun _ _ => FailsOnly.bind ?_ fun _ _ => trivial
  · exact FailsOnly.bind (FailsOnly.mapM fun g _ => c.failsOnly_group g) fun _ _ => trivial
  · exact (failsOnly_ofQuery _).bind fun _ _ => trivial

end Compiler

/-! ### Reading -/

namespace Preload

theorem failsOnly_attach (link : Link) (rows found : List Row) : FailsOnly Failure.Local (attach link rows found) :=
  FailsOnly.bind (FailsOnly.mapM fun _ _ => Value.failsOnly_asKey _) fun _ _ =>
    FailsOnly.mapM fun _ _ => (Value.failsOnly_asKey _).bind fun _ _ => trivial

variable {d : Dialect} {timeout : Value}

mutual

theorem failsWith_load : ∀ (n : Preload) (rows : List Row), (load d timeout rows n).FailsWith Failure.Local
  | node link target children, rows => by
    unfold load
    dsimp only
    split
    · exact Program.failsWith_lift (failsOnly_attach _ _ _)
    · intro raw
      refine Program.failsWith_lift_bind (FailsOnly.mapM fun _ _ => Row.failsOnly_decode _ _) fun decoded => ?_
      exact (failsWith_loadAll children decoded).bind fun found => Program.failsWith_lift (failsOnly_attach _ _ _)

theorem failsWith_loadAll : ∀ (ns : List Preload) (rows : List Row),
    (loadAll d timeout rows ns).FailsWith Failure.Local
  | [], _ => by
    unfold loadAll
    exact trivial
  | n :: ns, rows => by
    unfold loadAll
    exact (failsWith_load n rows).bind fun rows => failsWith_loadAll ns rows

end

end Preload

namespace Selection
variable (s : Selection)

/-- A failure of reading: one that is found without the store, or that no row fits. -/
def ReadFailure (f : Failure) : Prop := f.Local ∨ f = s.noMatch

theorem failsOnly_predicate (q : Query) : FailsOnly Failure.Local (s.predicate q) :=
  (s.compiler.failsOnly_predicate q).bind fun _ _ => trivial

theorem failsOnly_select (q : Query) (preloads : List Preload) : FailsOnly Failure.Local (s.select q preloads) :=
  (Compiler.failsOnly_ofQuery _).bind fun _ _ => (s.failsOnly_predicate q).bind fun _ _ =>
    (Compiler.failsOnly_ofQuery _).bind fun _ _ => trivial

theorem failsOnly_present (q : Query) (row : Row) : FailsOnly Failure.Local (s.present q row) := by
  unfold present
  split
  · exact trivial
  · exact Row.failsOnly_toEntity _ _ row

theorem failsOnly_prepare (q : Query) : FailsOnly Failure.Local (s.prepare q) :=
  (Compiler.failsOnly_validate q).bind fun _ _ => Compiler.failsOnly_ofQuery _

theorem failsWith_fetch (statement : Select) (q : Query) (preloads : List Preload) (timeout : Value) :
    (s.fetch statement q preloads timeout).FailsWith Failure.Local := by
  intro raw
  refine Program.failsWith_lift_bind (FailsOnly.mapM fun _ _ => Row.failsOnly_decode _ _) fun decoded => ?_
  refine (Preload.failsWith_loadAll preloads decoded).bind fun rows => ?_
  exact Program.failsWith_lift (FailsOnly.mapM fun _ _ => s.failsOnly_present q _)

theorem failsWith_first (timeout : Value) : (s.first timeout).FailsWith s.ReadFailure := by
  have hlocal {f : Failure} (h : f.Local) : s.ReadFailure f := .inl h
  refine Program.failsWith_lift_bind ((s.failsOnly_prepare _).mono fun _ => hlocal) fun preloads => ?_
  refine Program.failsWith_lift_bind ((s.failsOnly_select _ _).mono fun _ => hlocal) fun statement => ?_
  refine ((s.failsWith_fetch _ _ preloads _).mono fun _ => hlocal).bind fun rows => ?_
  cases rows with
  | nil => exact .inr rfl
  | cons row rows => exact trivial

theorem failsWith_find (id timeout : Value) : (s.find id timeout).FailsWith s.ReadFailure :=
  Program.failsWith_lift_bind ((Compiler.failsOnly_ofQuery _).mono fun _ => .inl) fun q =>
    (s.withQuery q).failsWith_first timeout

end Selection
end TableQuery
