import TableQuery.Proofs.Operations
import TableQuery.Proofs.Outcomes
import TableQuery.Store.Script

/-! Statements that fail. A failure of the driver ends the operation on the spot, and the caller gets to see it as an error
    of the store, with what was raised as its cause. Errors of this library and giving up come through as they are. -/

namespace TableQuery

/-! ### What cannot be classified -/

namespace Classification

/-- An attribute that can be searched for words: there is none, it says nothing, or it is text. -/
def Searchable (a : Option Value) : Prop := ∀ v, a = some v → v.isFalsy = false → ∃ s, v = .text s

/-- The attributes that the state of an error leads to can be searched: the detail, and the name of the constraint if the
    detail names no key. -/
structure Legible (a : ErrorAttributes) : Prop where
  duplicate : a.sqlstate = some (.text "23505") → Searchable a.detail ∧
    ∀ text, detailOf a = .ok text → keyDetail? text = none → Searchable a.constraintName
  foreignKey : a.sqlstate = some (.text "23503") → Searchable a.detail

section
variable {a : ErrorAttributes}

theorem attributeText_of_searchable {v? : Option Value} {bytes : Misuse} {other : String → Misuse} (h : Searchable v?) :
    ∃ s, attributeText v? bytes other = .ok s := by
  cases v? with
  | none => exact ⟨"", rfl⟩
  | some v =>
    cases hfalsy : v.isFalsy with
    | true => exact ⟨"", by simp only [attributeText, hfalsy, ↓reduceIte]⟩
    | false =>
      obtain ⟨s, rfl⟩ := h v rfl hfalsy
      exact ⟨s, by simp only [attributeText, hfalsy, Bool.false_eq_true, ↓reduceIte]⟩

theorem attributeText_of_not_searchable {v? : Option Value} {bytes : Misuse} {other : String → Misuse}
    (h : ¬ Searchable v?) : ∃ m, attributeText v? bytes other = .error (.misuse m) := by
  cases v? with
  | none => exact absurd (fun _ hv => nomatch hv) h
  | some v =>
    cases hfalsy : v.isFalsy with
    | true => exact absurd (fun _ hv hpresent => by cases hv; cases hfalsy.symm.trans hpresent) h
    | false =>
      simp only [attributeText, hfalsy, Bool.false_eq_true, ↓reduceIte]
      split
      · rename_i s
        exact absurd (fun _ hv _ => ⟨s, (Option.some.inj hv).symm⟩) h
      · exact ⟨_, rfl⟩
      · exact ⟨_, rfl⟩

theorem ofDuplicateKey_of_searchable (hdetail : Searchable a.detail)
    (hconstraint : ∀ text, detailOf a = .ok text → keyDetail? text = none → Searchable a.constraintName) :
    ∃ d, ofDuplicateKey a = .ok d := by
  obtain ⟨text, htext⟩ : ∃ s, detailOf a = .ok s := attributeText_of_searchable hdetail
  cases hkey : keyDetail? text with
  | some pair => exact ⟨_, bind_eq_ok.mpr ⟨text, htext, by rw [hkey]⟩⟩
  | none =>
    obtain ⟨name, hname⟩ : ∃ s, constraintOf a = .ok s := attributeText_of_searchable (hconstraint text htext hkey)
    exact ⟨_, bind_eq_ok.mpr ⟨text, htext, by rw [hkey]; exact bind_eq_ok.mpr ⟨name, hname, rfl⟩⟩⟩

theorem ofDuplicateKey_of_not_searchable (h : ¬ (Searchable a.detail ∧
    ∀ text, detailOf a = .ok text → keyDetail? text = none → Searchable a.constraintName)) :
    ∃ m, ofDuplicateKey a = .error (.misuse m) := by
  by_cases hdetail : Searchable a.detail
  · obtain ⟨text, htext⟩ : ∃ s, detailOf a = .ok s := attributeText_of_searchable hdetail
    have hkey : keyDetail? text = none := Option.eq_none_iff_forall_ne_some.mpr fun pair hpair =>
      h ⟨hdetail, fun text' htext' hkey => by
        cases htext.symm.trans htext'
        cases hkey.symm.trans hpair⟩
    have hconstraint : ¬ Searchable a.constraintName := fun hc => h ⟨hdetail, fun _ _ _ => hc⟩
    obtain ⟨m, hm⟩ : ∃ m, constraintOf a = .error (.misuse m) := attributeText_of_not_searchable hconstraint
    refine ⟨m, bind_eq_error.mpr (.inr ⟨text, htext, ?_⟩)⟩
    rw [hkey]
    exact bind_eq_error.mpr (.inl hm)
  · obtain ⟨m, hm⟩ : ∃ m, detailOf a = .error (.misuse m) := attributeText_of_not_searchable hdetail
    exact ⟨m, bind_eq_error.mpr (.inl hm)⟩

theorem ofForeignReference_of_searchable (hdetail : Searchable a.detail) : ∃ d, ofForeignReference a = .ok d := by
  obtain ⟨text, htext⟩ : ∃ s, detailOf a = .ok s := attributeText_of_searchable hdetail
  unfold ofForeignReference
  by_cases hused : occursInText "still referenced" text
  · exact ⟨_, bind_eq_ok.mpr ⟨text, htext, if_pos hused⟩⟩
  · cases hfield : (keyDetail? text).map Prod.fst with
    | some field => exact ⟨_, bind_eq_ok.mpr ⟨text, htext, by rw [if_neg hused, hfield]⟩⟩
    | none => exact ⟨_, bind_eq_ok.mpr ⟨text, htext, by rw [if_neg hused, hfield]⟩⟩

theorem ofForeignReference_of_not_searchable (hdetail : ¬ Searchable a.detail) :
    ∃ m, ofForeignReference a = .error (.misuse m) := by
  obtain ⟨m, hm⟩ : ∃ m, detailOf a = .error (.misuse m) := attributeText_of_not_searchable hdetail
  exact ⟨m, bind_eq_error.mpr (.inl hm)⟩

theorem ofState?_of_legible (h : Legible a) : ∃ d, ofState? a = .ok d := by
  unfold ofState?
  split
  · rename_i state hstate
    split
    · rename_i hcode
      obtain ⟨hdetail, hconstraint⟩ := h.duplicate (by rw [hstate, hcode])
      obtain ⟨d, hd⟩ := ofDuplicateKey_of_searchable hdetail hconstraint
      rw [hd]
      exact ⟨_, rfl⟩
    split
    · rename_i hcode
      obtain ⟨d, hd⟩ := ofForeignReference_of_searchable (h.foreignKey (by rw [hstate, hcode]))
      rw [hd]
      exact ⟨_, rfl⟩
    repeat' split
    all_goals exact ⟨_, rfl⟩
  · exact ⟨_, rfl⟩

theorem ofState?_of_not_legible (h : ¬ Legible a) : ∃ m, ofState? a = .error (.misuse m) := by
  by_cases hduplicate : a.sqlstate = some (.text "23505")
  · obtain ⟨m, hm⟩ := ofDuplicateKey_of_not_searchable fun hsearch =>
      h ⟨fun _ => hsearch, fun hforeign => absurd (hduplicate.symm.trans hforeign) (by simp)⟩
    refine ⟨m, ?_⟩
    simp only [ofState?, hduplicate, ↓reduceIte, hm]
    rfl
  · have hforeign : a.sqlstate = some (.text "23503") :=
      Classical.byContradiction fun hstate => h ⟨fun hd => absurd hd hduplicate, fun hf => absurd hf hstate⟩
    obtain ⟨m, hm⟩ := ofForeignReference_of_not_searchable fun hdetail =>
      h ⟨fun hd => absurd hd hduplicate, fun _ => hdetail⟩
    refine ⟨m, ?_⟩
    have hother : ¬ "23503" = "23505" := by decide
    simp only [ofState?, hforeign, hother, ↓reduceIte, hm]
    rfl

end
end Classification

/-! ### What the caller sees of a failure -/

namespace DriverError
variable {e : DriverError}

theorem classify_of_legible (h : Classification.Legible e.attributes) : ∃ d, e.classify = .ok d := by
  obtain ⟨known, hknown⟩ := Classification.ofState?_of_legible h
  simp only [classify, bind_eq_ok, hknown]
  cases known with
  | some d => exact ⟨d, _, rfl, rfl⟩
  | none =>
    cases hnumber : Classification.ofNumber? e with
    | some d => exact ⟨d, _, rfl, rfl⟩
    | none => exact ⟨_, _, rfl, rfl⟩

theorem classify_of_not_legible (h : ¬ Classification.Legible e.attributes) : ∃ m, e.classify = .error (.misuse m) := by
  obtain ⟨m, hm⟩ := Classification.ofState?_of_not_legible h
  exact ⟨m, bind_eq_error.mpr (.inl hm)⟩

end DriverError

namespace Failure

/-- What the caller sees of a failure that a statement of a kind ended with. -/
inductive Reported (kind : RequestKind) : Failure → Failure → Prop
  /-- Errors of this library and giving up come through. -/
  | own {f : Failure} (h : f.isOwn = true) : Reported kind f f
  | timedOut (limit : Value) (arguments : List Value) :
    Reported kind (.timeout arguments) (Store.timedOut kind limit arguments)
  | classified {f : Failure} {d : DatabaseError} (hforeign : f.isOwn = false) (htime : ∀ arguments, f ≠ .timeout arguments)
    (h : f.classify = .ok d) : Reported kind f (.database d (some f))
  /-- The error of a driver that cannot be classified: the attempt is what the caller sees. -/
  | illegible {e : DriverError} {m : Misuse} (hattributes : ¬ Classification.Legible e.attributes)
    (h : e.classify = .error (.misuse m)) : Reported kind (.driver e) (.misuse m)

section
variable {kind : RequestKind} {f g : Failure}

/-- Only errors of drivers have attributes. -/
theorem legible_or_driver (f : Failure) : Classification.Legible f.toDriverError.attributes ∨ ∃ e, f = .driver e := by
  cases f with
  | driver e => exact .inr ⟨e, rfl⟩
  | _ => exact .inl ⟨fun h => (nomatch h), fun h => (nomatch h)⟩

theorem reported_wrap (htime : ∀ arguments, f ≠ .timeout arguments) : Reported kind f f.wrap := by
  cases hown : f.isOwn with
  | true =>
    rw [wrap, if_pos hown]
    exact .own hown
  | false =>
    have hclassify : f.classify = f.toDriverError.classify := by
      cases f with
      | database e cause => cases hown
      | timeout arguments => exact absurd rfl (htime arguments)
      | _ => rfl
    rw [wrap, if_neg (by rw [hown]; decide)]
    by_cases hlegible : Classification.Legible f.toDriverError.attributes
    · obtain ⟨d, hd⟩ := DriverError.classify_of_legible hlegible
      rw [hclassify, hd]
      exact .classified hown htime (hclassify.trans hd)
    · obtain ⟨e, rfl⟩ := (legible_or_driver f).resolve_left hlegible
      obtain ⟨m, hm⟩ := DriverError.classify_of_not_legible hlegible
      rw [hclassify, hm]
      exact .illegible hlegible hm

theorem reported_refusal (limit : Value) : Reported kind f (Store.refusal kind limit f) := by
  unfold Store.refusal
  split
  · exact .timedOut limit _
  · rename_i htime
    exact reported_wrap htime

/-- What a driver raised never gets to the caller by itself. -/
theorem Reported.not_raw (h : Reported kind f g) : (∀ e, g ≠ .driver e) ∧ ∀ arguments, g ≠ .timeout arguments := by
  cases h with
  | own hown =>
    refine ⟨fun e he => ?_, fun arguments he => ?_⟩
    · rw [he] at hown
      cases hown
    · rw [he] at hown
      cases hown
  | timedOut => exact ⟨fun _ => nofun, fun _ => nofun⟩
  | classified => exact ⟨fun _ => nofun, fun _ => nofun⟩
  | illegible => exact ⟨fun _ => nofun, fun _ => nofun⟩

end
end Failure

/-! ### Runs with a failure -/

namespace Reply

/-- The driver answers the statement. -/
inductive IsAnswer : Reply → Prop
  | answer (rows : List Row) (value : Value) (written : WriteResult) : IsAnswer (.answer rows value written)

/-- The driver fails: by what it raises, or because it is not done in time. -/
inductive Fails : Reply → Failure → Prop
  | raised (f : Failure) : Fails (.raised f) f
  | hangs : Fails .hangs (.timeout [])

variable {r : Reply}

theorem IsAnswer.outcome (h : r.IsAnswer) (kind : RequestKind) : ∃ a, r.outcome kind = .ok a := by
  cases h with
  | answer => cases kind <;> exact ⟨_, rfl⟩

theorem Fails.outcome {f : Failure} (h : r.Fails f) (kind : RequestKind) : r.outcome kind = .error f := by
  cases h <;> rfl

end Reply

/-- A run ends with the failure of a statement, after `earlier` others: that statement was the last, all replies after
    its own are still there, and the caller sees what is reported of the failure. -/
structure Run.EndsBy {α : Type} (run : Run α) (earlier : Nat) (later : List Reply) (f : Failure) : Prop where
  sent : run.sent.length = earlier + 1
  unanswered : run.rest.replies = later
  seen : ∃ last g, run.sent.getLast? = some last ∧ run.outcome = .error g ∧ f.Reported last.kind g ∧
    (∀ e, g ≠ .driver e) ∧ ∀ arguments, g ≠ .timeout arguments

namespace Store

/-- A statement does not get to the driver, or it takes the next reply. -/
theorem send_cases (st : Store) (r : Request) (s : Script) :
    (∃ f, st.send r s = (.error f, [], s)) ∨ ∃ sql params, st.send r s =
      ((s.reply.1.outcome r.kind).mapError (refusal r.kind (st.limit r.timeout)), [⟨r.kind, sql, params⟩], s.reply.2) := by
  unfold send
  split
  · exact .inl ⟨_, rfl⟩
  · dsimp only
    split
    · exact .inl ⟨_, rfl⟩
    · exact .inr ⟨_, _, rfl⟩

-- By induction on the program. Each answer is used up by the statement it is for, so the failing reply meets the statement
-- whose number it has; a program that ends earlier, or whose statement does not get to the driver, sends too few.
theorem run_endsBy (st : Store) {failing : Reply} {f : Failure} (hfails : failing.Fails f) (later : List Reply) {α : Type} :
    ∀ (p : Program α) (answers : List Reply) (keys : List Value), (∀ a ∈ answers, a.IsAnswer) →
      answers.length < (st.run p ⟨answers ++ failing :: later, keys⟩).sent.length →
      (st.run p ⟨answers ++ failing :: later, keys⟩).EndsBy answers.length later f
  | .done _, _, _, _, hsent => absurd hsent (Nat.not_lt_zero _)
  | .fail _, _, _, _, hsent => absurd hsent (Nat.not_lt_zero _)
  | .draw next, answers, [], hanswers, hsent => run_endsBy st hfails later (next .null) answers [] hanswers hsent
  | .draw next, answers, key :: keys, hanswers, hsent => run_endsBy st hfails later (next key) answers keys hanswers hsent
  | .ask r next, answers, keys, hanswers, hsent => by
    unfold run at hsent ⊢
    rcases st.send_cases r ⟨answers ++ failing :: later, keys⟩ with ⟨g, hsend⟩ | ⟨sql, params, hsend⟩
    · rw [hsend] at hsent
      exact absurd hsent (Nat.not_lt_zero _)
    cases answers with
    | nil =>
      have hreply : (Script.reply ⟨failing :: later, keys⟩).1.outcome r.kind = .error f := hfails.outcome r.kind
      rw [List.nil_append, hreply] at hsend
      rw [List.nil_append, hsend]
      have hreported : f.Reported r.kind (refusal r.kind (st.limit r.timeout) f) := Failure.reported_refusal _
      exact ⟨rfl, rfl, _, _, rfl, rfl, hreported, hreported.not_raw⟩
    | cons answer answers =>
      obtain ⟨hanswer, hanswers⟩ := List.forall_mem_cons.mp hanswers
      obtain ⟨a, ha⟩ := hanswer.outcome r.kind
      have hreply : (Script.reply ⟨answer :: answers ++ failing :: later, keys⟩).1.outcome r.kind = .ok a := ha
      rw [hreply] at hsend
      rw [hsend] at hsent ⊢
      have htail := run_endsBy st hfails later (next a) answers keys hanswers (Nat.lt_of_succ_lt_succ hsent)
      obtain ⟨last, g, hlast, hrest⟩ := htail.seen
      refine ⟨congrArg (· + 1) htail.sent, htail.unanswered, last, g, ?_, hrest⟩
      show (_ :: (st.run (next a) ⟨answers ++ failing :: later, keys⟩).sent).getLast? = some last
      rw [List.getLast?_cons, hlast]
      rfl

end Store

namespace Operation

/-- A failing statement ends an operation. Nothing is sent after it, neither the same statement again nor another one, and
    the caller sees giving up and the errors of this library as they are, a statement out of time as such, and any other
    failure as the error of the store that it amounts to, with what was raised as its cause. The exception is an error with
    attributes that cannot be searched for words: there the attempt to classify it is what fails. -/
theorem failure_ends_operation (st : Store) (w : Writer) (op : Operation) (timeout : Value) (answers later : List Reply)
    (keys : List Value) (failing : Reply) (f : Failure) (hanswers : ∀ a ∈ answers, a.IsAnswer) (hfails : failing.Fails f)
    (hsent : answers.length < (st.run (op.program w timeout) ⟨answers ++ failing :: later, keys⟩).sent.length) :
    (st.run (op.program w timeout) ⟨answers ++ failing :: later, keys⟩).EndsBy answers.length later f :=
  st.run_endsBy hfails later (op.program w timeout) answers keys hanswers hsent

/-- A lost connection on the rows of a page that were counted before. -/
theorem failure_ends_operation_page :
    let posts : Table := ⟨"posts", "id", false, none, none, none, []⟩
    let w : Writer := .ofSelection (.all .sqlite posts .standard)
    let st : Store := ⟨.sqlite, .standard⟩
    let lost : Failure := .driver ⟨"OperationalError", [.text "connection lost"], .none⟩
    let replies : List Reply := [.answer [] (.int 3) ⟨.null, .null, []⟩, .raised lost, .nothing]
    (1 < (st.run (page.program w .null) ⟨replies, []⟩).sent.length) ∧
      (st.run (page.program w .null) ⟨replies, []⟩).EndsBy 1 [.nothing] lost := by
  intro posts w st lost replies
  have hsent : 1 < (st.run (page.program w .null) ⟨replies, []⟩).sent.length := by decide +kernel
  refine ⟨hsent, ?_⟩
  exact failure_ends_operation st w page .null [_] [_] [] (.raised lost) lost
    (List.forall_mem_singleton.mpr (.answer ..)) (.raised lost) hsent

end Operation
end TableQuery
