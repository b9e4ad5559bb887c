import TableQuery.Proofs.DriverCalls

/-! Connections of a pool. A statement takes one, makes all its calls on it, and gives it back at the very end, whatever
    fails on the way. Only a cursor that cannot be closed keeps its connection. -/

namespace TableQuery

/-- Calls on a connection, which are all but those on the pool. -/
def DriverCall.OnConnection : DriverCall → Prop
  | .acquire | .release => False
  | _ => True

/-- A connection is taken first and given back last, and the pool is not called in between. -/
def GivenBack (calls : List DriverCall) : Prop :=
  ∃ work, calls = .acquire :: work ++ [.release] ∧ ∀ c ∈ work, c.OnConnection

/-- A connection is taken first and not given back. The last call is that of closing the cursor. -/
def Stranded (calls : List DriverCall) : Prop :=
  ∃ work, calls = .acquire :: work ++ [.closeCursor] ∧ ∀ c ∈ work, c.OnConnection

theorem GivenBack.not_stranded {calls : List DriverCall} (hback : GivenBack calls) : ¬ Stranded calls := by
  rintro ⟨work', hstranded, -⟩
  obtain ⟨work, rfl, -⟩ := hback
  have hlast := congrArg List.getLast? hstranded
  rw [List.getLast?_concat, List.getLast?_concat] at hlast
  cases hlast

section
variable {h : Handle} {pooled : Bool} {kind : RequestKind} {sql : String} {params : List Value}

namespace MySql

theorem onConnection_plan : ∀ c ∈ plan pooled kind sql params, c.OnConnection := by
  refine List.forall_mem_cons.mpr ⟨trivial, ?_⟩
  cases kind with
  | rows => exact List.forall_mem_singleton.mpr trivial
  | value => exact List.forall_mem_singleton.mpr trivial
  | write returning =>
    refine List.forall_mem_append.mpr ⟨?_, ?_⟩
    · cases returning with
      | true => exact List.forall_mem_singleton.mpr trivial
      | false => exact List.forall_mem_nil _
    · cases pooled with
      | true => exact List.forall_mem_singleton.mpr trivial
      | false => exact List.forall_mem_nil _

theorem onConnection_work : ∀ c ∈ work h pooled kind sql params, c.OnConnection := by
  refine List.forall_mem_append.mpr ⟨fun c hc => ?_, fun c hc => ?_⟩
  · exact (List.forall_mem_cons.mpr ⟨trivial, onConnection_plan⟩) c (Handle.mem_of_mem_made hc)
  · rw [(of_mem_undone hc).2]
    exact trivial

theorem onConnection_closing_external : ∀ c ∈ closing h false, c.OnConnection := by
  intro c hc
  rcases of_mem_closing hc with rfl | ⟨hpooled, -⟩
  · exact trivial
  · cases hpooled

end MySql

namespace PostgreSql

theorem onConnection_work {registered : List Int} {process : Int} :
    ∀ c ∈ work h registered process kind sql params, c.OnConnection := by
  intro c hc
  rcases List.mem_append.mp (Handle.mem_of_mem_made hc) with hc | hc
  · unfold setup at hc
    split at hc
    · cases hc
    · obtain ⟨type, -, rfl⟩ := List.mem_map.mp hc
      exact trivial
  · cases kind with
    | rows =>
      cases List.mem_singleton.mp hc
      exact trivial
    | value =>
      cases List.mem_singleton.mp hc
      exact trivial
    | write returning =>
      cases List.mem_singleton.mp hc
      cases returning <;> exact trivial

end PostgreSql
end

namespace Adapter

/-- A cursor is opened that cannot be closed. Only MySQL has cursors over a pool. -/
def KeepsCursor (a : Adapter) (h : Handle) : Prop :=
  a.driver = .mysql ∧ h.fails .openCursor = none ∧ ∃ f, h.fails .closeCursor = some f

section
variable {a : Adapter} {h : Handle} {kind : RequestKind} {sql : String} {params : List Value}

theorem onConnection_of_external (hdriver : a.driver ≠ .sqlite) (hpooled : a.pooled = false) :
    ∀ c ∈ (a.perform h kind sql params).calls, c.OnConnection := by
  unfold perform
  rw [hpooled]
  cases hkind : a.driver with
  | sqlite => exact absurd hkind hdriver
  | mysql =>
    show ∀ c ∈ (MySql.perform h false kind sql params).calls, _
    rw [MySql.calls_perform_external]
    exact List.forall_mem_append.mpr ⟨MySql.onConnection_work, MySql.onConnection_closing_external⟩
  | postgresql =>
    show ∀ c ∈ (PostgreSql.perform h false a.registered a.process kind sql params).calls, _
    rw [PostgreSql.calls_perform_external]
    exact PostgreSql.onConnection_work

theorem calls_of_refused {f : Failure} (hdriver : a.driver ≠ .sqlite) (hpooled : a.pooled = true)
    (hacquire : h.fails .acquire = some f) : (a.perform h kind sql params).calls = [.acquire] := by
  unfold perform
  rw [hpooled]
  cases hkind : a.driver with
  | sqlite => exact absurd hkind hdriver
  | mysql => exact MySql.calls_perform_refused hacquire kind sql params
  | postgresql => exact PostgreSql.calls_perform_refused hacquire kind sql params

theorem givenBack_of_taken (hdriver : a.driver ≠ .sqlite) (hpooled : a.pooled = true)
    (hacquire : h.fails .acquire = none) (hcursor : ¬ a.KeepsCursor h) :
    GivenBack (a.perform h kind sql params).calls := by
  unfold perform
  rw [hpooled]
  cases hkind : a.driver with
  | sqlite => exact absurd hkind hdriver
  | mysql =>
    obtain ⟨closed, hclosing, hclosed⟩ := MySql.closing_pool fun hkept => hcursor ⟨hkind, hkept⟩
    have honConnection : ∀ c ∈ closed, c.OnConnection := fun c hc => by rw [hclosed c hc]; trivial
    refine ⟨MySql.work h true kind sql params ++ closed, ?_,
      List.forall_mem_append.mpr ⟨MySql.onConnection_work, honConnection⟩⟩
    refine (MySql.calls_perform_taken hacquire kind sql params).trans ?_
    rw [hclosing, List.cons_append, List.append_assoc]
  | postgresql => exact ⟨_, PostgreSql.calls_perform_taken hacquire kind sql params, PostgreSql.onConnection_work⟩

theorem stranded_of_keepsCursor (hpooled : a.pooled = true) (hacquire : h.fails .acquire = none)
    (hcursor : a.KeepsCursor h) : Stranded (a.perform h kind sql params).calls := by
  obtain ⟨hkind, hopen, f, hclose⟩ := hcursor
  unfold perform
  rw [hpooled, hkind]
  refine ⟨MySql.work h true kind sql params, (MySql.calls_perform_taken hacquire kind sql params).trans ?_,
    MySql.onConnection_work⟩
  rw [MySql.closing, hopen, hclose]
  rfl

end

/-- Connections of MySQL and PostgreSQL pools go back to them. Over a connection of the caller the pool is not called. A
    pool that refuses a connection is not called again. A connection that was taken is given back at the very end, once,
    whatever calls fail or are given up; but it is never given back if a cursor was opened on it that cannot be closed. -/
theorem connections_given_back (a : Adapter) (h : Handle) (kind : RequestKind) (sql : String) (params : List Value)
    (hdriver : a.driver ≠ .sqlite) :
    let calls := (a.perform h kind sql params).calls
    (a.pooled = false → ∀ c ∈ calls, c.OnConnection) ∧
    (a.pooled = true → (∃ f, h.fails .acquire = some f) → calls = [.acquire]) ∧
    (a.pooled = true → h.fails .acquire = none →
      (GivenBack calls ↔ ¬ a.KeepsCursor h) ∧ (Stranded calls ↔ a.KeepsCursor h)) := by
  refine ⟨onConnection_of_external hdriver, fun hpooled ⟨f, hacquire⟩ => calls_of_refused hdriver hpooled hacquire, ?_⟩
  intro hpooled hacquire
  have hback : ¬ a.KeepsCursor h → GivenBack (a.perform h kind sql params).calls :=
    givenBack_of_taken hdriver hpooled hacquire
  have hstranded : a.KeepsCursor h → Stranded (a.perform h kind sql params).calls :=
    stranded_of_keepsCursor hpooled hacquire
  refine ⟨⟨fun hgiven hcursor => hgiven.not_stranded (hstranded hcursor), hback⟩, ⟨fun hkept => ?_, hstranded⟩⟩
  exact Classical.byContradiction fun hcursor => (hback hcursor).not_stranded hkept

/-- A statement over a MySQL pool is refused and cannot be undone either; its connection goes back all the same. That of
    a statement that ended well does not if its cursor cannot be closed. -/
theorem connections_given_back_refused :
    let refused : Failure := .driver ⟨"OperationalError", [.int 2013, .text "Lost connection to MySQL server"], .none⟩
    let a : Adapter := ⟨.mysql, .standard, true, false, [], 0, []⟩
    let lost : Handle := ⟨fun | .execute .. | .rollback => some refused | _ => none, [], .null, .int 0, .null, .null⟩
    let stuck : Handle := ⟨fun | .closeCursor => some refused | _ => none, [], .null, .int 0, .null, .null⟩
    (a.driver ≠ .sqlite ∧ lost.fails .acquire = none ∧ ¬ a.KeepsCursor lost) ∧
    GivenBack (a.perform lost .rows "SELECT 1" []).calls ∧
    (a.perform lost .rows "SELECT 1" []).calls =
      [.acquire, .openCursor, .execute "SELECT 1" [], .rollback, .closeCursor, .release] ∧
    Stranded (a.perform stuck .rows "SELECT 1" []).calls := by
  intro refused a lost stuck
  have hdriver : a.driver ≠ .sqlite := nofun
  have hlost : ¬ a.KeepsCursor lost := fun ⟨_, _, _, hclose⟩ => nomatch hclose
  have hstuck : a.KeepsCursor stuck := ⟨rfl, rfl, refused, rfl⟩
  refine ⟨⟨hdriver, rfl, hlost⟩, ?_, rfl, ?_⟩
  · exact ((connections_given_back a lost .rows "SELECT 1" [] hdriver).2.2 rfl rfl).1.mpr hlost
  · exact ((connections_given_back a stuck .rows "SELECT 1" [] hdriver).2.2 rfl rfl).2.mpr hstuck

end Adapter
end TableQuery
