import TableQuery.Proofs.DriverCalls

/-! Transactions on MySQL connections. On a connection from the pool a change is committed once it is done and its rows are
    read, and an error is undone before the connection goes back; what is given up is not undone. On a connection of the
    caller nothing is committed or undone. -/

namespace TableQuery

namespace MySql

/-- The calls that end a transaction. -/
def EndsTransaction : DriverCall → Prop
  | .commit | .rollback => True
  | _ => False

/-- What was begun is undone, and after that the connection is given back. -/
def RolledBack (calls : List DriverCall) : Prop :=
  ∃ before after, calls = before ++ .rollback :: after ++ [.release]

/-- How a statement is run and its answer read. -/
def reading (kind : RequestKind) (sql : String) (params : List Value) : List DriverCall :=
  .execute sql params :: match kind with
    | .rows => [.fetchAll]
    | .value => [.fetchOne]
    | .write returning => if returning then [.fetchAll] else []

/-- What follows the answer: a change over a pool is committed. -/
def settling (pooled : Bool) (kind : RequestKind) : List DriverCall :=
  match kind with
  | .rows | .value => []
  | .write _ => if pooled then [.commit] else []

section
variable {h : Handle} {pooled : Bool} {kind : RequestKind} {sql : String} {params : List Value} {f : Failure}

theorem plan_eq : plan pooled kind sql params = reading kind sql params ++ settling pooled kind := by
  cases kind <;> rfl

theorem not_endsTransaction_reading : ∀ c ∈ reading kind sql params, ¬ EndsTransaction c := by
  refine List.forall_mem_cons.mpr ⟨id, ?_⟩
  cases kind with
  | rows => exact List.forall_mem_singleton.mpr id
  | value => exact List.forall_mem_singleton.mpr id
  | write returning =>
    cases returning with
    | true => exact List.forall_mem_singleton.mpr id
    | false => exact List.forall_mem_nil _

theorem settling_external : settling false kind = [] := by
  cases kind <;> rfl

theorem of_mem_settling {c : DriverCall} (hc : c ∈ settling pooled kind) :
    pooled = true ∧ settling pooled kind = [.commit] ∧ ∃ returning, kind = .write returning := by
  cases kind with
  | rows => cases hc
  | value => cases hc
  | write returning =>
    cases pooled with
    | true => exact ⟨rfl, rfl, returning, rfl⟩
    | false => cases hc

theorem rollback_notMem_plan : .rollback ∉ plan pooled kind sql params := by
  intro hmem
  rw [plan_eq] at hmem
  rcases List.mem_append.mp hmem with hmem | hmem
  · exact not_endsTransaction_reading _ hmem trivial
  · rw [(of_mem_settling hmem).2.1] at hmem
    exact absurd hmem (by simp)

/-! ### A connection of the caller -/

theorem not_endsTransaction_of_external :
    ∀ c ∈ (perform h false kind sql params).calls, ¬ EndsTransaction c := by
  rw [calls_perform_external]
  refine List.forall_mem_append.mpr ⟨List.forall_mem_append.mpr ⟨fun c hc => ?_, ?_⟩, ?_⟩
  · rcases List.mem_cons.mp (Handle.mem_of_mem_made hc) with rfl | hc
    · exact id
    · rw [plan_eq, settling_external, List.append_nil] at hc
      exact not_endsTransaction_reading c hc
  · exact fun c hc => nomatch (of_mem_undone hc).1
  · intro c hc
    rcases of_mem_closing hc with rfl | ⟨hpooled, -⟩
    · exact id
    · cases hpooled

/-! ### A connection of the pool -/

/-- What a transaction comes to after the connection was taken. -/
def taken (kind : RequestKind) (sql : String) (params : List Value) : List DriverCall :=
  .acquire :: .openCursor :: reading kind sql params

/-- What is called once the plan is over does not commit. -/
theorem commit_notMem_end (fault? : Option Failure) : .commit ∉ undone true fault? ++ closing h true := by
  intro hmem
  rcases List.mem_append.mp hmem with hmem | hmem
  · cases (of_mem_undone hmem).2
  · rcases of_mem_closing hmem with hclose | ⟨-, hrelease⟩
    · cases hclose
    · cases hrelease

theorem commit_notMem_taken : .commit ∉ taken kind sql params := by
  intro hmem
  rcases List.mem_cons.mp hmem with hmem | hmem
  · cases hmem
  · rcases List.mem_cons.mp hmem with hmem | hmem
    · cases hmem
    · exact not_endsTransaction_reading _ hmem trivial

theorem commit_of_taken (hacquire : h.fails .acquire = none) (hcommit : .commit ∈ (perform h true kind sql params).calls) :
    ∃ returning after, kind = .write returning ∧
      (perform h true kind sql params).calls = taken kind sql params ++ .commit :: after ∧ .commit ∉ after ∧
      h.fault? (taken kind sql params) = none := by
  have hcalls : (perform h true kind sql params).calls = h.made (taken kind sql params ++ settling true kind) ++
      (undone true (h.fault? (.openCursor :: plan true kind sql params)) ++ closing h true) := by
    rw [calls_perform_taken hacquire, work, taken, List.cons_append, List.cons_append, ← plan_eq,
      Handle.made_cons_of_succeeds hacquire, List.cons_append, List.append_assoc]
  rw [hcalls] at hcommit ⊢
  have hmem := (List.mem_append.mp hcommit).resolve_right (commit_notMem_end _)
  -- A fault before the answer would have ended the plan in front of the commit.
  have hfault : h.fault? (taken kind sql params) = none := by
    cases hf : h.fault? (taken kind sql params) with
    | none => rfl
    | some f =>
      rw [Handle.made_append_of_some hf] at hmem
      exact absurd (Handle.mem_of_mem_made hmem) commit_notMem_taken
  rw [Handle.made_append_of_none hfault] at hmem ⊢
  have hsettling := Handle.mem_of_mem_made ((List.mem_append.mp hmem).resolve_left commit_notMem_taken)
  obtain ⟨-, hone, returning, hkind⟩ := of_mem_settling hsettling
  rw [hone, Handle.made_singleton, List.append_assoc]
  exact ⟨returning, _, hkind, rfl, commit_notMem_end _, hfault⟩

/-- If no clean-up fails, a statement fails as its plan does. -/
theorem fault_perform_taken (hacquire : h.fails .acquire = none) (hrollback : h.fails .rollback = none)
    (hclose : h.fails .closeCursor = none) (hrelease : h.fails .release = none) :
    (perform h true kind sql params).outcome = .error f ↔ h.fault? (.openCursor :: plan true kind sql params) = some f := by
  obtain ⟨body, hbody, hperform⟩ := perform_session h true kind sql params
  rw [hperform, withSession, if_pos rfl, Attempt.bind_of_ok (Handle.outcome_call_of_succeeds hacquire)]
  exact fault_withCursor hrollback hclose hrelease hbody f

theorem isError_of_ne (hf : f ≠ .cancelled) : Attempt.isError f = true := by
  cases f <;> first | rfl | exact absurd rfl hf

/-- An error is undone before the connection is given back. -/
theorem rolledBack_of_fault (hacquire : h.fails .acquire = none) (hclose : h.fails .closeCursor = none)
    (hfault : h.fault? (.openCursor :: plan true kind sql params) = some f) (hf : f ≠ .cancelled) :
    RolledBack (perform h true kind sql params).calls := by
  obtain ⟨closed, hclosing, -⟩ := closing_pool fun ⟨_, f, hf⟩ => nomatch hclose.symm.trans hf
  refine ⟨.acquire :: h.made (.openCursor :: plan true kind sql params), closed, ?_⟩
  rw [calls_perform_taken hacquire, work, hfault, undone, isError_of_ne hf, hclosing]
  simp

/-- What ended well or was given up is not undone. -/
theorem rollback_notMem_of_taken (hacquire : h.fails .acquire = none)
    (hundone : undone true (h.fault? (.openCursor :: plan true kind sql params)) = []) :
    .rollback ∉ (perform h true kind sql params).calls := by
  rw [calls_perform_taken hacquire, work, hundone, List.append_nil]
  intro hmem
  rcases List.mem_cons.mp hmem with hmem | hmem
  · cases hmem
  rcases List.mem_append.mp hmem with hmem | hmem
  · rcases List.mem_cons.mp (Handle.mem_of_mem_made hmem) with hmem | hmem
    · cases hmem
    · exact rollback_notMem_plan hmem
  · rcases of_mem_closing hmem with hclose | ⟨-, hrelease⟩
    · cases hclose
    · cases hrelease

theorem commit_mem_of_write {returning : Bool} (hacquire : h.fails .acquire = none)
    (hfault : h.fault? (.openCursor :: plan true (.write returning) sql params) = none) :
    .commit ∈ (perform h true (.write returning) sql params).calls := by
  rw [calls_perform_taken hacquire, work, Handle.made_eq_self hfault, plan_eq]
  simp [settling]

/-- Transactions over MySQL, where no clean-up fails. On a connection of the caller nothing is committed or undone. A commit
    happens over a pool only, once, for a change alone, and after the change was made and its rows were read without a
    fault. A statement that fails on a connection of the pool is undone before the connection goes back, unless it was
    given up: then it is not undone at all. One that ends well is not undone, and a change is committed. -/
theorem transactions_settled (h : Handle) (pooled : Bool) (kind : RequestKind) (sql : String) (params : List Value)
    (hrollback : h.fails .rollback = none) (hclose : h.fails .closeCursor = none) (hrelease : h.fails .release = none) :
    let run := perform h pooled kind sql params
    (pooled = false → ∀ c ∈ run.calls, ¬ EndsTransaction c) ∧
    (.commit ∈ run.calls → pooled = true ∧ ∃ returning after, kind = .write returning ∧
      run.calls = taken kind sql params ++ .commit :: after ∧ .commit ∉ after ∧
      h.fault? (taken kind sql params) = none) ∧
    (pooled = true → h.fails .acquire = none →
      (∀ f, run.outcome = .error f →
        (f ≠ .cancelled → RolledBack run.calls) ∧ (f = .cancelled → .rollback ∉ run.calls)) ∧
      (∀ a, run.outcome = .ok a → .rollback ∉ run.calls ∧ ∀ returning, kind = .write returning → .commit ∈ run.calls)) := by
  cases pooled with
  | false =>
    refine ⟨fun _ => not_endsTransaction_of_external, fun hcommit => ?_, nofun⟩
    exact absurd trivial (not_endsTransaction_of_external _ hcommit)
  | true =>
    refine ⟨nofun, fun hcommit => ⟨rfl, ?_⟩, fun _ hacquire => ⟨fun f hout => ?_, fun a hout => ?_⟩⟩
    · cases hacquire : h.fails .acquire with
      | none => exact commit_of_taken hacquire hcommit
      | some f =>
        rw [calls_perform_refused hacquire] at hcommit
        exact absurd hcommit (by simp)
    · have hfault := (fault_perform_taken hacquire hrollback hclose hrelease).mp hout
      refine ⟨rolledBack_of_fault hacquire hclose hfault, fun hf => rollback_notMem_of_taken hacquire ?_⟩
      rw [hfault, hf]
      rfl
    · have hfault : h.fault? (.openCursor :: plan true kind sql params) = none :=
        Option.eq_none_iff_forall_ne_some.mpr fun f hf => by
          cases hout.symm.trans ((fault_perform_taken hacquire hrollback hclose hrelease).mpr hf)
      refine ⟨rollback_notMem_of_taken hacquire ?_, ?_⟩
      · rw [hfault]
        rfl
      · rintro returning rfl
        exact commit_mem_of_write hacquire hfault

/-- A change is refused by the server on one connection, and given up after it was made on another. -/
theorem transactions_settled_refused :
    let refused : Failure := .driver ⟨"IntegrityError", [.int 1062, .text "Duplicate entry"], .none⟩
    let late : Handle := ⟨fun | .execute .. => some refused | _ => none, [], .null, .int 0, .null, .null⟩
    let dropped : Handle := ⟨fun | .commit => some .cancelled | _ => none, [], .null, .int 1, .null, .null⟩
    let sql := "DELETE FROM posts"
    (late.fails .rollback = none ∧ late.fails .closeCursor = none ∧ late.fails .release = none ∧
      dropped.fails .rollback = none ∧ dropped.fails .closeCursor = none ∧ dropped.fails .release = none) ∧
    RolledBack (perform late true (.write false) sql []).calls ∧
    (perform dropped true (.write false) sql []).calls =
      [.acquire, .openCursor, .execute sql [], .commit, .closeCursor, .release] ∧
    .rollback ∉ (perform dropped true (.write false) sql []).calls := by
  intro refused late dropped sql
  have hlate := (transactions_settled late true (.write false) sql [] rfl rfl rfl).2.2 rfl rfl
  have hdropped := (transactions_settled dropped true (.write false) sql [] rfl rfl rfl).2.2 rfl rfl
  refine ⟨⟨rfl, rfl, rfl, rfl, rfl, rfl⟩, (hlate.1 refused rfl).1 nofun, rfl, (hdropped.1 .cancelled rfl).2 rfl⟩

end
end MySql
end TableQuery
