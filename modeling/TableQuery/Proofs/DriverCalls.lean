import TableQuery.Driver.Adapter

/-! The calls of a statement on a driver's handle. A plan is what is called if no call fails. An attempt that keeps to a
    plan makes its calls up to the first one that fails; sessions put a connection and clean-ups around them. -/

namespace TableQuery

namespace Handle

/-- The calls of a plan that are made: all up to the first one that fails. -/
def made (h : Handle) : List DriverCall → List DriverCall
  | [] => []
  | c :: plan => if (h.fails c).isSome then [c] else c :: h.made plan

/-- What the first failing call of a plan fails with. -/
def fault? (h : Handle) (plan : List DriverCall) : Option Failure := plan.findSome? h.fails

section
variable {h : Handle} {c : DriverCall} {plan plan' : List DriverCall}

theorem outcome_call_of_succeeds (hc : h.fails c = none) : (h.call c).outcome = .ok () := by
  rw [call, hc]

theorem outcome_call_of_fails {f : Failure} (hc : h.fails c = some f) : (h.call c).outcome = .error f := by
  rw [call, hc]

theorem made_cons_of_fails {f : Failure} (hc : h.fails c = some f) : h.made (c :: plan) = [c] := by
  rw [made, hc]
  rfl

theorem made_cons_of_succeeds (hc : h.fails c = none) : h.made (c :: plan) = c :: h.made plan := by
  rw [made, hc]
  rfl

theorem fault?_cons_of_fails {f : Failure} (hc : h.fails c = some f) : h.fault? (c :: plan) = some f := by
  rw [fault?, List.findSome?_cons, hc]

theorem fault?_cons_of_succeeds (hc : h.fails c = none) : h.fault? (c :: plan) = h.fault? plan := by
  rw [fault?, List.findSome?_cons, hc]
  rfl

theorem fault?_append : h.fault? (plan ++ plan') = (h.fault? plan).or (h.fault? plan') := List.findSome?_append

theorem made_append_of_none (hplan : h.fault? plan = none) : h.made (plan ++ plan') = plan ++ h.made plan' := by
  induction plan with
  | nil => rfl
  | cons c plan ih =>
    cases hc : h.fails c with
    | none =>
      rw [fault?_cons_of_succeeds hc] at hplan
      rw [List.cons_append, made_cons_of_succeeds hc, ih hplan, List.cons_append]
    | some f =>
      rw [fault?_cons_of_fails hc] at hplan
      cases hplan

theorem made_append_of_some {f : Failure} (hplan : h.fault? plan = some f) : h.made (plan ++ plan') = h.made plan := by
  induction plan with
  | nil => cases hplan
  | cons c plan ih =>
    cases hc : h.fails c with
    | none =>
      rw [fault?_cons_of_succeeds hc] at hplan
      rw [List.cons_append, made_cons_of_succeeds hc, made_cons_of_succeeds hc, ih hplan]
    | some f' => rw [List.cons_append, made_cons_of_fails hc, made_cons_of_fails hc]

theorem made_singleton : h.made [c] = [c] := by
  cases hc : h.fails c with
  | none => rw [made_cons_of_succeeds hc, made]
  | some f => exact made_cons_of_fails hc

theorem made_eq_self (hplan : h.fault? plan = none) : h.made plan = plan := by
  have happend : h.made (plan ++ []) = plan ++ h.made [] := made_append_of_none hplan
  rwa [List.append_nil, made, List.append_nil] at happend

theorem made_prefix : h.made plan <+: plan := by
  induction plan with
  | nil => exact List.prefix_rfl
  | cons c plan ih =>
    cases hc : h.fails c with
    | none =>
      rw [made_cons_of_succeeds hc]
      exact List.cons_prefix_cons.mpr ⟨rfl, ih⟩
    | some f =>
      rw [made_cons_of_fails hc]
      exact List.cons_prefix_cons.mpr ⟨rfl, List.nil_prefix⟩

theorem mem_of_mem_made (hc : c ∈ h.made plan) : c ∈ plan := made_prefix.subset hc

end

end Handle

/-! ### Attempts that keep to a plan -/

namespace Attempt

/-- An attempt that makes the calls of a plan, and ends with a result if all of them do. -/
structure Makes {α : Type} (h : Handle) (plan : List DriverCall) (p : Attempt α) : Prop where
  calls : p.calls = h.made plan
  fails : (∃ f, p.outcome = .error f) ↔ ∃ f, h.fault? plan = some f

/-- One that also fails as the first failing call does. -/
structure Follows {α : Type} (h : Handle) (plan : List DriverCall) (p : Attempt α) : Prop where
  calls : p.calls = h.made plan
  fault : ∀ f, p.outcome = .error f ↔ h.fault? plan = some f

section
variable {α β : Type} {h : Handle} {c : DriverCall} {plan plan' : List DriverCall} {p : Attempt α} {k : α → Attempt β}

theorem Follows.makes (hp : p.Follows h plan) : p.Makes h plan := ⟨hp.calls, exists_congr hp.fault⟩

theorem bind_of_ok {a : α} (ha : p.outcome = .ok a) : p >>= k = ⟨p.calls ++ (k a).calls, (k a).outcome⟩ := by
  show p.bind k = _
  rw [bind, ha]

theorem bind_of_error {f : Failure} (hf : p.outcome = .error f) : p >>= k = ⟨p.calls, .error f⟩ := by
  show p.bind k = _
  rw [bind, hf]

theorem calls_bind_of_silent (hk : ∀ a, (k a).calls = []) : (p >>= k).calls = p.calls := by
  cases hp : p.outcome with
  | ok a => rw [bind_of_ok hp, hk a, List.append_nil]
  | error f => rw [bind_of_error hp]

theorem Makes.calls_bind (hp : p.Makes h plan) (hk : ∀ a, (k a).Makes h plan') :
    (p >>= k).calls = h.made (plan ++ plan') := by
  cases hout : p.outcome with
  | ok a =>
    have hplan : h.fault? plan = none := by
      rw [Option.eq_none_iff_forall_ne_some]
      intro f hf
      obtain ⟨f', hf'⟩ := hp.fails.mpr ⟨f, hf⟩
      cases hout.symm.trans hf'
    rw [bind_of_ok hout, hp.calls, (hk a).calls, Handle.made_eq_self hplan, Handle.made_append_of_none hplan]
  | error f =>
    obtain ⟨f', hf'⟩ := hp.fails.mp ⟨f, hout⟩
    rw [bind_of_error hout, hp.calls, Handle.made_append_of_some hf']

theorem follows_pure (a : α) : (pure a : Attempt α).Follows h [] := ⟨rfl, fun _ => ⟨nofun, nofun⟩⟩

theorem follows_call (c : DriverCall) : (h.call c).Follows h [c] := by
  cases hc : h.fails c with
  | none => exact ⟨by rw [Handle.made_cons_of_succeeds hc]; rfl, by simp [Handle.call, Handle.fault?, hc]⟩
  | some f => exact ⟨by rw [Handle.made_cons_of_fails hc]; rfl, by simp [Handle.call, Handle.fault?, hc]⟩

theorem Follows.bind (hp : p.Follows h plan) (hk : ∀ a, (k a).Follows h plan') : (p >>= k).Follows h (plan ++ plan') := by
  refine ⟨hp.makes.calls_bind fun a => (hk a).makes, fun f => ?_⟩
  rw [Handle.fault?_append]
  cases hout : p.outcome with
  | ok a =>
    have hplan : h.fault? plan = none := by
      rw [Option.eq_none_iff_forall_ne_some]
      intro f hf
      cases hout.symm.trans ((hp.fault f).mpr hf)
    rw [bind_of_ok hout, hplan, Option.none_or]
    exact (hk a).fault f
  | error f' =>
    rw [bind_of_error hout, (hp.fault f').mp hout, Option.some_or]
    exact ⟨fun heq => by cases heq; rfl, fun heq => by cases heq; rfl⟩

theorem follows_callFor (c : DriverCall) (a : α) : (h.callFor c a).Follows h [c] :=
  (follows_call c).bind fun _ => follows_pure a

theorem Follows.cons {p : Attempt Unit} {k : Unit → Attempt β} (hp : p.Follows h [c]) (hk : (k ()).Follows h plan) :
    (p >>= k).Follows h (c :: plan) := hp.bind fun _ => hk

theorem follows_forM {ι : Type} (call : ι → DriverCall) :
    ∀ xs : List ι, (xs.forM fun x => h.call (call x)).Follows h (xs.map call)
  | [] => follows_pure ()
  | _ :: xs => (follows_call _).cons (follows_forM call xs)

end

section
variable {α : Type} {p : Attempt α} {step cleanup : Attempt Unit} {f : Failure}

theorem outcome_ensuring (hcleanup : cleanup.outcome = .ok ()) : (p.ensuring cleanup).outcome = p.outcome := by
  rw [ensuring, hcleanup]

theorem onError_of_ok {a : α} (ha : p.outcome = .ok a) : p.onError step = p := by
  rw [onError, ha]

theorem onError_of_error (hf : p.outcome = .error f) : p.onError step = if isError f then p.ensuring step else p := by
  rw [onError, hf]

theorem calls_quietly : step.quietly.calls = step.calls := by
  unfold quietly
  split
  · rfl
  · split <;> rfl

end

end Attempt

/-! ### MySQL -/

namespace MySql

/-- What a statement takes on a cursor. -/
def plan (pooled : Bool) (kind : RequestKind) (sql : String) (params : List Value) : List DriverCall :=
  .execute sql params :: match kind with
    | .rows => [.fetchAll]
    | .value => [.fetchOne]
    | .write returning => (if returning then [.fetchAll] else []) ++ (if pooled then [.commit] else [])

/-- What is called once the plan of a session has failed, if it has: on a connection from the pool an error is undone,
    giving up is not. -/
def undone (pooled : Bool) (fault? : Option Failure) : List DriverCall :=
  match fault? with
  | some f => if pooled && Attempt.isError f then [.rollback] else []
  | none => []

/-- What is called at the end of a session: the cursor is closed if it was opened. The connection is given back, but not
    if closing the cursor failed. -/
def closing (h : Handle) (pooled : Bool) : List DriverCall :=
  let release : List DriverCall := if pooled then [.release] else []
  match h.fails .openCursor, h.fails .closeCursor with
  | some _, _ => release
  | none, none => .closeCursor :: release
  | none, some _ => [.closeCursor]

section
variable {h : Handle} {pooled : Bool} {c : DriverCall}

theorem of_mem_undone {fault? : Option Failure} (hc : c ∈ undone pooled fault?) : pooled = true ∧ c = .rollback := by
  unfold undone at hc
  split at hc
  · split at hc
    · rename_i hpooled
      exact ⟨(Bool.and_eq_true_iff.mp hpooled).1, List.mem_singleton.mp hc⟩
    · cases hc
  · cases hc

theorem of_mem_closing (hc : c ∈ closing h pooled) : c = .closeCursor ∨ pooled = true ∧ c = .release := by
  have hrelease : c ∈ (if pooled then [DriverCall.release] else []) → pooled = true ∧ c = .release := by
    cases pooled <;> simp
  unfold closing at hc
  dsimp only at hc
  split at hc
  · exact .inr (hrelease hc)
  · exact (List.mem_cons.mp hc).imp_right hrelease
  · exact .inl (List.mem_singleton.mp hc)

end

/-- A session over a pool ends with giving the connection back, unless a cursor was opened that cannot be closed. -/
theorem closing_pool {h : Handle} (hcursor : ¬ (h.fails .openCursor = none ∧ ∃ f, h.fails .closeCursor = some f)) :
    ∃ closed, closing h true = closed ++ [.release] ∧ ∀ c ∈ closed, c = .closeCursor := by
  unfold closing
  dsimp only
  split
  · exact ⟨[], rfl, List.forall_mem_nil _⟩
  · exact ⟨[.closeCursor], rfl, List.forall_mem_singleton.mpr rfl⟩
  · rename_i f hopen hclose
    exact absurd ⟨hopen, f, hclose⟩ hcursor

section
variable {α : Type} {h : Handle} {pooled : Bool} {plan : List DriverCall} {p body : Attempt α}

theorem calls_giveBack : (giveBack h pooled).calls = if pooled then [.release] else [] := by
  unfold giveBack
  split
  · exact Attempt.calls_quietly
  · rfl

theorem calls_undo : (undo h pooled).calls = if pooled then [.rollback] else [] := by
  unfold undo
  split <;> rfl

theorem calls_onError_undo (pooled : Bool) (hp : p.Follows h plan) :
    (p.onError (undo h pooled)).calls = h.made plan ++ undone pooled (h.fault? plan) := by
  cases hout : p.outcome with
  | ok a =>
    have hplan : h.fault? plan = none := Option.eq_none_iff_forall_ne_some.mpr fun f hf => by
      cases hout.symm.trans ((hp.fault f).mpr hf)
    rw [Attempt.onError_of_ok hout, hp.calls, hplan, undone, List.append_nil]
  | error f =>
    rw [Attempt.onError_of_error hout, (hp.fault f).mp hout, undone]
    cases Attempt.isError f with
    | true =>
      show p.calls ++ (undo h pooled).calls = _
      rw [hp.calls, calls_undo, Bool.and_true]
    | false => rw [Bool.and_false, if_neg Bool.false_ne_true, if_neg Bool.false_ne_true, hp.calls, List.append_nil]

theorem calls_withCursor (pooled : Bool) (hbody : body.Follows h plan) : (withCursor h pooled body).calls =
    h.made (.openCursor :: plan) ++ undone pooled (h.fault? (.openCursor :: plan)) ++ closing h pooled := by
  unfold withCursor
  cases hopen : h.fails .openCursor with
  | none =>
    have hmain := calls_onError_undo pooled
      ((Attempt.follows_call (h := h) .openCursor).cons (k := fun _ => body) hbody)
    dsimp only
    rw [Handle.outcome_call_of_succeeds hopen]
    show _ ++ (h.call .closeCursor >>= fun _ => giveBack h pooled).calls = _
    rw [hmain, closing, hopen]
    cases hclose : h.fails .closeCursor with
    | none =>
      rw [Attempt.bind_of_ok (Handle.outcome_call_of_succeeds hclose), calls_giveBack]
      rfl
    | some f =>
      rw [Attempt.bind_of_error (Handle.outcome_call_of_fails hclose)]
      rfl
  | some f =>
    have hfollows : (⟨[.openCursor], .error f⟩ : Attempt α).Follows h (.openCursor :: plan) :=
      ⟨(Handle.made_cons_of_fails hopen).symm, fun f' => by simp [Handle.fault?_cons_of_fails hopen]⟩
    dsimp only
    rw [Handle.outcome_call_of_fails hopen, closing, hopen]
    show _ ++ (giveBack h pooled).calls = _
    rw [calls_giveBack]
    exact congrArg (· ++ _) (calls_onError_undo pooled hfollows)

/-- If no clean-up fails, a session fails as its plan does. -/
theorem fault_withCursor (hrollback : h.fails .rollback = none) (hclose : h.fails .closeCursor = none)
    (hrelease : h.fails .release = none) (hbody : body.Follows h plan) (f : Failure) :
    (withCursor h pooled body).outcome = .error f ↔ h.fault? (.openCursor :: plan) = some f := by
  have hundone : (undo h pooled).outcome = .ok () := by
    unfold undo
    split
    · exact Handle.outcome_call_of_succeeds hrollback
    · rfl
  have hback : (giveBack h pooled).outcome = .ok () := by
    unfold giveBack
    split
    · rw [Attempt.quietly, Handle.outcome_call_of_succeeds hrelease]
      exact Handle.outcome_call_of_succeeds hrelease
    · rfl
  -- What is undone does not change the outcome, whether or not there is a cursor to close.
  have hmain {p : Attempt α} : (p.onError (undo h pooled)).outcome = p.outcome := by
    cases hp : p.outcome with
    | ok a => rw [Attempt.onError_of_ok hp, hp]
    | error f =>
      rw [Attempt.onError_of_error hp]
      split
      · rw [Attempt.outcome_ensuring hundone, hp]
      · exact hp
  unfold withCursor
  cases hopen : h.fails .openCursor with
  | none =>
    dsimp only
    rw [Handle.outcome_call_of_succeeds hopen]
    dsimp only
    rw [Attempt.outcome_ensuring, hmain]
    · exact ((Attempt.follows_call (h := h) .openCursor).cons (k := fun _ => body) hbody).fault f
    · rw [Attempt.bind_of_ok (Handle.outcome_call_of_succeeds hclose)]
      exact hback
  | some f' =>
    dsimp only
    rw [Handle.outcome_call_of_fails hopen]
    dsimp only
    rw [Attempt.outcome_ensuring hback, hmain, Handle.fault?_cons_of_fails hopen]
    exact ⟨fun heq => by cases heq; rfl, fun heq => by cases heq; rfl⟩

/-- A statement is a session around its plan. -/
theorem perform_session (h : Handle) (pooled : Bool) (kind : RequestKind) (sql : String) (params : List Value) :
    ∃ body : Attempt kind.Answer, body.Follows h (MySql.plan pooled kind sql params) ∧
      perform h pooled kind sql params = withSession h pooled body := by
  cases kind with
  | rows => exact ⟨_, (Attempt.follows_call _).cons (Attempt.follows_callFor _ _), rfl⟩
  | value => exact ⟨_, (Attempt.follows_call _).cons (Attempt.follows_callFor _ _), rfl⟩
  | write returning =>
    refine ⟨_, (Attempt.follows_call _).cons ?_, rfl⟩
    have hcommit (rows : List Row) :
        (if pooled then h.call .commit >>= fun _ => pure ⟨h.rowCount, h.lastRowId, rows⟩
          else pure ⟨h.rowCount, h.lastRowId, rows⟩ : Attempt WriteResult).Follows h (if pooled then [.commit] else []) := by
      split
      · exact (Attempt.follows_call _).cons (Attempt.follows_pure _)
      · exact Attempt.follows_pure _
    cases returning with
    | true => exact (Attempt.follows_callFor .fetchAll h.rows).bind hcommit
    | false => exact (Attempt.follows_pure []).bind hcommit

end

/-- What is called on a connection before the session comes to its end. -/
def work (h : Handle) (pooled : Bool) (kind : RequestKind) (sql : String) (params : List Value) : List DriverCall :=
  h.made (.openCursor :: plan pooled kind sql params) ++
    undone pooled (h.fault? (.openCursor :: plan pooled kind sql params))

section
variable {h : Handle}

theorem calls_perform_external (kind : RequestKind) (sql : String) (params : List Value) :
    (perform h false kind sql params).calls = work h false kind sql params ++ closing h false := by
  obtain ⟨body, hbody, hperform⟩ := perform_session h false kind sql params
  rw [hperform]
  exact calls_withCursor false hbody

theorem calls_perform_refused {f : Failure} (hacquire : h.fails .acquire = some f) (kind : RequestKind) (sql : String)
    (params : List Value) : (perform h true kind sql params).calls = [.acquire] := by
  obtain ⟨body, -, hperform⟩ := perform_session h true kind sql params
  rw [hperform, withSession, if_pos rfl, Attempt.bind_of_error (Handle.outcome_call_of_fails hacquire)]
  rfl

theorem calls_perform_taken (hacquire : h.fails .acquire = none) (kind : RequestKind) (sql : String)
    (params : List Value) : (perform h true kind sql params).calls =
      .acquire :: (work h true kind sql params ++ closing h true) := by
  obtain ⟨body, hbody, hperform⟩ := perform_session h true kind sql params
  rw [hperform, withSession, if_pos rfl, Attempt.bind_of_ok (Handle.outcome_call_of_succeeds hacquire), calls_withCursor true hbody]
  rfl

end
end MySql

/-! ### PostgreSQL -/

namespace PostgreSql

/-- How the codecs of a connection are set up, if they are not there. -/
def setup (registered : List Int) (process : Int) : List DriverCall :=
  if registered.contains process then [] else jsonTypes.map .setCodec

/-- What a statement takes on a connection. -/
def plan (kind : RequestKind) (sql : String) (params : List Value) : List DriverCall :=
  match kind with
  | .rows => [.fetch sql params]
  | .value => [.fetchValue sql params]
  | .write returning => [if returning then .fetch sql params else .execute sql params]

section
variable {α : Type} {h : Handle} {registered : List Int} {process : Int} {plan : List DriverCall} {body : Attempt α}

theorem makes_ensureCodecs : (ensureCodecs h registered process).Makes h (setup registered process) := by
  unfold ensureCodecs setup
  split
  · exact (Attempt.follows_pure ()).makes
  have hsetup := Attempt.follows_forM (h := h) .setCodec jsonTypes
  dsimp only
  split
  · exact hsetup.makes
  · rename_i f hf
    have hfault := (hsetup.fault f).mp hf
    split
    · exact ⟨hsetup.calls, fun _ => ⟨f, hfault⟩, fun _ => ⟨_, rfl⟩⟩
    · exact hsetup.makes

theorem calls_main (hbody : body.Makes h plan) :
    (ensureCodecs h registered process >>= fun _ => body).calls = h.made (setup registered process ++ plan) :=
  makes_ensureCodecs.calls_bind fun _ => hbody

theorem calls_withSession_refused {f : Failure} (hacquire : h.fails .acquire = some f) :
    (withSession h true registered process body).calls = [.acquire] := by
  rw [withSession, if_pos rfl, Attempt.bind_of_error (Handle.outcome_call_of_fails hacquire)]
  rfl

theorem calls_withSession_taken (hacquire : h.fails .acquire = none) (hbody : body.Makes h plan) :
    (withSession h true registered process body).calls =
      .acquire :: (h.made (setup registered process ++ plan) ++ [.release]) := by
  rw [withSession, if_pos rfl, Attempt.bind_of_ok (Handle.outcome_call_of_succeeds hacquire)]
  show [.acquire] ++ (_ ++ Attempt.calls (Attempt.quietly _)) = _
  rw [Attempt.calls_quietly, calls_main hbody]
  rfl

/-- A statement makes the calls of a session around its plan. -/
theorem exists_session (h : Handle) (pooled : Bool) (registered : List Int) (process : Int) (kind : RequestKind)
    (sql : String) (params : List Value) : ∃ (β : Type) (body : Attempt β), body.Makes h (PostgreSql.plan kind sql params) ∧
      (perform h pooled registered process kind sql params).calls =
        (withSession h pooled registered process body).calls := by
  cases kind with
  | rows => exact ⟨_, _, (Attempt.follows_callFor _ _).makes, rfl⟩
  | value => exact ⟨_, _, (Attempt.follows_callFor _ _).makes, rfl⟩
  | write returning =>
    cases returning with
    | true => exact ⟨_, _, ((Attempt.follows_callFor _ _).bind fun _ => Attempt.follows_pure _).makes, rfl⟩
    | false =>
      refine ⟨_, _, (Attempt.follows_callFor _ h.status).makes, Attempt.calls_bind_of_silent fun status => ?_⟩
      -- The count is taken out of the answer without another call.
      split <;> rfl

end

/-- What is called on a connection before it is given back. -/
def work (h : Handle) (registered : List Int) (process : Int) (kind : RequestKind) (sql : String)
    (params : List Value) : List DriverCall :=
  h.made (setup registered process ++ plan kind sql params)

section
variable {h : Handle} {registered : List Int} {process : Int}

theorem calls_perform_external (kind : RequestKind) (sql : String) (params : List Value) :
    (perform h false registered process kind sql params).calls = work h registered process kind sql params := by
  obtain ⟨β, body, hbody, hcalls⟩ := exists_session h false registered process kind sql params
  exact hcalls.trans (calls_main hbody)

theorem calls_perform_refused {f : Failure} (hacquire : h.fails .acquire = some f) (kind : RequestKind) (sql : String)
    (params : List Value) : (perform h true registered process kind sql params).calls = [.acquire] := by
  obtain ⟨β, body, -, hcalls⟩ := exists_session h true registered process kind sql params
  exact hcalls.trans (calls_withSession_refused hacquire)

theorem calls_perform_taken (hacquire : h.fails .acquire = none) (kind : RequestKind) (sql : String)
    (params : List Value) : (perform h true registered process kind sql params).calls =
      .acquire :: (work h registered process kind sql params ++ [.release]) := by
  obtain ⟨β, body, hbody, hcalls⟩ := exists_session h true registered process kind sql params
  exact hcalls.trans (calls_withSession_taken hacquire hbody)

end
end PostgreSql
end TableQuery
