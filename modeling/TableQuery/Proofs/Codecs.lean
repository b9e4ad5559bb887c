import TableQuery.Proofs.Connections

/-! Codecs of PostgreSQL connections. Adapters share what is known of server processes, by their numbers. A statement runs
    on a connection with codecs, set up before and once; but for a connection that leads to a process of which another
    connection had its codecs set up, nothing is set up any more. -/

namespace TableQuery

instance : DecidablePred DriverCall.OnConnection
  | .acquire | .release => instDecidableFalse
  | .setCodec _ | .openCursor | .execute .. | .fetch .. | .fetchValue .. | .fetchAll | .fetchOne | .commit | .rollback
  | .closeCursor => instDecidableTrue

/-- Calls that run a statement. -/
def DriverCall.RunsStatement : DriverCall → Prop
  | .execute .. | .fetch .. | .fetchValue .. => True
  | _ => False

namespace Adapter
variable {a : Adapter} {h : Handle} {r : Request}

theorem send_of_started {sql : String} {params : List Value} (hwritten : a.store.render r.statement = .ok (sql, params))
    (hstarted : Store.notStarted? r.kind (a.store.limit r.timeout) = none) :
    (a.send h r).1.calls = (a.perform h r.kind sql params).calls ∧ (a.send h r).2 = a.after h := by
  unfold send
  simp only [hwritten, hstarted, and_self]

theorem send_of_not_written {f : Failure} (hwritten : a.store.render r.statement = .error f) :
    (a.send h r).1.calls = [] ∧ (a.send h r).2 = a := by
  unfold send
  simp only [hwritten, Attempt.fail, and_self]

theorem send_of_not_started {sql : String} {params : List Value} {f : Failure}
    (hwritten : a.store.render r.statement = .ok (sql, params))
    (hstarted : Store.notStarted? r.kind (a.store.limit r.timeout) = some f) :
    (a.send h r).1.calls = [] ∧ (a.send h r).2 = a := by
  unfold send
  simp only [hwritten, hstarted, Attempt.fail, and_self]

end Adapter

namespace PostgreSql

/-- A connection, an object of the driver, with the number of the server process that it leads to. Numbers are given
    again: a process that is gone may leave its number to one that other connections lead to. -/
structure Connection where
  object : Nat
  process : Int
  deriving DecidableEq, Repr

/-- A statement that is sent for a connection, be it of a pool or of the caller. -/
structure Use where
  connection : Connection
  adapter : Adapter
  handle : Handle
  request : Request
  overPostgreSql : adapter.driver = .postgresql
  leadsTo : adapter.process = connection.process

/-- A call on a connection, and whether it failed. -/
structure Event where
  connection : Connection
  call : DriverCall
  failed : Bool

/-- What went before: the server processes that are known to have codecs, and the calls on connections. -/
structure History where
  registered : List Int
  log : List Event

namespace Use

/-- The adapter of a use, once it is known of server processes that they have codecs. -/
def knowing (u : Use) (registered : List Int) : Adapter := { u.adapter with registered }

/-- The calls of a use on its connection. -/
def calls (u : Use) (registered : List Int) : List DriverCall :=
  ((u.knowing registered).send u.handle u.request).1.calls.filter fun c => c.OnConnection

/-- The server processes that are known to have codecs after a use. -/
def registers (u : Use) (registered : List Int) : List Int :=
  ((u.knowing registered).send u.handle u.request).2.registered

def event (u : Use) (c : DriverCall) : Event := ⟨u.connection, c, (u.handle.fails c).isSome⟩

/-- A statement comes to its connection: it can be written, it is started in time, and the pool does not refuse the
    connection. -/
structure Reaches (u : Use) : Prop where
  written : ∃ written, u.adapter.store.render u.request.statement = .ok written
  started : Store.notStarted? u.request.kind (u.adapter.store.limit u.request.timeout) = none
  connected : connects u.handle u.adapter.pooled = true

/-- No set-up of a codec would fail. -/
def Ready (u : Use) : Prop := ∀ type ∈ jsonTypes, u.handle.fails (.setCodec type) = none

end Use

namespace History

/-- A further use. -/
def next (past : History) (u : Use) : History :=
  ⟨u.registers past.registered, past.log ++ (u.calls past.registered).map u.event⟩

/-- The history of uses, one after another, of whatever adapters. -/
def ofUses (uses : List Use) : History := uses.foldl next ⟨[], []⟩

end History

/-- Both codecs of a connection were set up. -/
def Equipped (log : List Event) (c : Connection) : Prop := ∀ type ∈ jsonTypes, ⟨c, .setCodec type, false⟩ ∈ log

/-- Both codecs of a connection to a server process were set up. -/
def ProcessEquipped (log : List Event) (process : Int) : Prop := ∃ c : Connection, c.process = process ∧ Equipped log c

/-! ### One use -/

/-- What a use comes to, as calls on its connection and processes known thereafter. -/
inductive Use.ComesTo (u : Use) (registered : List Int) : List DriverCall → List Int → Prop
  | nothing : ¬ u.Reaches → ComesTo u registered [] registered
  | known {c : DriverCall} : u.Reaches → u.connection.process ∈ registered → c.RunsStatement →
    ComesTo u registered [c] registered
  | firstFails {f : Failure} : u.Reaches → u.connection.process ∉ registered →
    u.handle.fails (.setCodec "json") = some f → ComesTo u registered [.setCodec "json"] registered
  | secondFails {f : Failure} : u.Reaches → u.connection.process ∉ registered →
    u.handle.fails (.setCodec "json") = none → u.handle.fails (.setCodec "jsonb") = some f →
    ComesTo u registered [.setCodec "json", .setCodec "jsonb"] registered
  | equipped {c : DriverCall} : u.Reaches → u.connection.process ∉ registered →
    u.handle.fails (.setCodec "json") = none → u.handle.fails (.setCodec "jsonb") = none → c.RunsStatement →
    ComesTo u registered [.setCodec "json", .setCodec "jsonb", c] (registered ++ [u.connection.process])

theorem exists_plan (kind : RequestKind) (sql : String) (params : List Value) :
    ∃ c, plan kind sql params = [c] ∧ c.RunsStatement := by
  cases kind with
  | rows => exact ⟨_, rfl, trivial⟩
  | value => exact ⟨_, rfl, trivial⟩
  | write returning =>
    refine ⟨_, rfl, ?_⟩
    split <;> exact trivial

section
variable {u : Use} {registered : List Int} {calls : List DriverCall}

theorem filter_work {h : Handle} {process : Int} {kind : RequestKind} {sql : String} {params : List Value} :
    (work h registered process kind sql params).filter (fun c => c.OnConnection) =
      work h registered process kind sql params :=
  List.filter_eq_self.mpr fun c hc => decide_eq_true (onConnection_work c hc)

theorem connects_eq_true {h : Handle} {pooled : Bool} :
    connects h pooled = true ↔ (pooled = true → h.fails .acquire = none) := by
  unfold connects
  cases pooled <;> simp

theorem connects_eq_false {h : Handle} {pooled : Bool} (hconnects : connects h pooled ≠ true) :
    pooled = true ∧ ∃ f, h.fails .acquire = some f := by
  rw [ne_eq, connects_eq_true, Classical.not_imp] at hconnects
  exact hconnects.imp_right Option.ne_none_iff_exists'.mp

theorem Use.perform_eq (u : Use) (registered : List Int) (sql : String) (params : List Value) :
    (u.knowing registered).perform u.handle u.request.kind sql params =
      PostgreSql.perform u.handle u.adapter.pooled registered u.connection.process u.request.kind sql params := by
  have hdriver : (u.knowing registered).driver = .postgresql := u.overPostgreSql
  have hprocess : (u.knowing registered).process = u.connection.process := u.leadsTo
  rw [Adapter.perform, hdriver, hprocess]
  rfl

theorem Use.registered_after (u : Use) (registered : List Int) : ((u.knowing registered).after u.handle).registered =
    registeredAfter u.handle u.adapter.pooled registered u.connection.process :=
  congrArg (registeredAfter u.handle u.adapter.pooled registered) u.leadsTo

/-- The calls of a use that comes to its connection are those of a session, whether or not it is one of a pool. -/
theorem Use.Reaches.calls_eq (hreaches : u.Reaches) (registered : List Int) : ∃ sql params,
    u.calls registered = work u.handle registered u.connection.process u.request.kind sql params ∧
    u.registers registered = registeredAfter u.handle u.adapter.pooled registered u.connection.process := by
  obtain ⟨⟨⟨sql, params⟩, hwritten⟩, hstarted, hconnected⟩ := hreaches
  obtain ⟨hcalls, hafter⟩ := Adapter.send_of_started (a := u.knowing registered) (h := u.handle) hwritten hstarted
  refine ⟨sql, params, ?_, ?_⟩
  · rw [Use.calls, hcalls, u.perform_eq]
    cases hpooled : u.adapter.pooled with
    | false => rw [calls_perform_external, filter_work]
    | true =>
      rw [calls_perform_taken (connects_eq_true.mp hconnected hpooled), List.filter_cons_of_neg (by decide),
        List.filter_append, filter_work]
      exact List.append_nil _
  · rw [Use.registers, hafter, u.registered_after]

theorem Use.calls_of_not_reaches (h : ¬ u.Reaches) (registered : List Int) :
    u.calls registered = [] ∧ u.registers registered = registered := by
  unfold Use.calls Use.registers
  cases hwritten : (u.knowing registered).store.render u.request.statement with
  | error f =>
    obtain ⟨hcalls, hafter⟩ := Adapter.send_of_not_written (h := u.handle) hwritten
    rw [hcalls, hafter]
    exact ⟨rfl, rfl⟩
  | ok written =>
    obtain ⟨sql, params⟩ := written
    cases hstarted : Store.notStarted? u.request.kind ((u.knowing registered).store.limit u.request.timeout) with
    | some f =>
      obtain ⟨hcalls, hafter⟩ := Adapter.send_of_not_started (h := u.handle) hwritten hstarted
      rw [hcalls, hafter]
      exact ⟨rfl, rfl⟩
    | none =>
      have hrefused : connects u.handle u.adapter.pooled ≠ true := fun hconnected => h ⟨⟨_, hwritten⟩, hstarted, hconnected⟩
      obtain ⟨hpooled, f, hacquire⟩ := connects_eq_false hrefused
      obtain ⟨hcalls, hafter⟩ := Adapter.send_of_started (h := u.handle) hwritten hstarted
      rw [hcalls, hafter, u.perform_eq, u.registered_after, registeredAfter, Bool.eq_false_iff.mpr hrefused, hpooled,
        calls_perform_refused hacquire]
      exact ⟨rfl, rfl⟩

theorem Use.comesTo (u : Use) (registered : List Int) :
    u.ComesTo registered (u.calls registered) (u.registers registered) := by
  by_cases hreaches : u.Reaches
  · obtain ⟨sql, params, hcalls, hregisters⟩ := hreaches.calls_eq registered
    obtain ⟨c, hplan, hruns⟩ := exists_plan u.request.kind sql params
    rw [hcalls, hregisters, work, hplan, setup, registeredAfter, hreaches.connected]
    by_cases hknown : u.connection.process ∈ registered
    · have hcontains : registered.contains u.connection.process = true := List.contains_iff_mem.mpr hknown
      simp only [hcontains, if_true, List.nil_append, Handle.made_singleton, Bool.not_true, Bool.false_or]
      exact .known hreaches hknown hruns
    · have hcontains : registered.contains u.connection.process = false :=
        Bool.eq_false_iff.mpr (mt List.contains_iff_mem.mp hknown)
      simp only [hcontains, Bool.not_true, Bool.false_or, Bool.false_eq_true, if_false, jsonTypes, List.map_cons,
        List.map_nil, List.cons_append, List.nil_append, List.all_cons, List.all_nil, Bool.and_true]
      cases hfirst : u.handle.fails (.setCodec "json") with
      | some f =>
        rw [Handle.made_cons_of_fails hfirst]
        exact .firstFails hreaches hknown hfirst
      | none =>
        rw [Handle.made_cons_of_succeeds hfirst]
        cases hsecond : u.handle.fails (.setCodec "jsonb") with
        | some f =>
          rw [Handle.made_cons_of_fails hsecond]
          exact .secondFails hreaches hknown hfirst hsecond
        | none =>
          rw [Handle.made_cons_of_succeeds hsecond, Handle.made_singleton]
          exact .equipped hreaches hknown hfirst hsecond hruns
  · obtain ⟨hcalls, hregisters⟩ := Use.calls_of_not_reaches hreaches registered
    rw [hcalls, hregisters]
    exact .nothing hreaches

theorem Use.event_of_fails {u : Use} {c : DriverCall} {f : Failure} (hc : u.handle.fails c = some f) :
    u.event c = ⟨u.connection, c, true⟩ := by
  rw [event, hc]
  rfl

theorem Use.event_of_succeeds {u : Use} {c : DriverCall} (hc : u.handle.fails c = none) :
    u.event c = ⟨u.connection, c, false⟩ := by
  rw [event, hc]
  rfl

end

/-! ### What a history keeps -/

/-- Something holds of each event of a log and what stands in front of it. -/
def InOrder (holds : List Event → Event → Prop) (log : List Event) : Prop :=
  ∀ before e after, log = before ++ e :: after → holds before e

/-- An event in its place. A statement is run on a connection to a process of which some connection has codecs; codecs are
    set up on a connection to a process of which none has. -/
structure Placed (before : List Event) (e : Event) : Prop where
  statement : e.call.RunsStatement → ProcessEquipped before e.connection.process
  setup : ∀ type, e.call = .setCodec type → ¬ ProcessEquipped before e.connection.process

/-- What is kept by all uses. The second codec is set up after the first only, so it tells whether both are there. -/
structure Tracked (past : History) : Prop where
  registered : ∀ process, process ∈ past.registered ↔ ProcessEquipped past.log process
  complete : ∀ c, ⟨c, .setCodec "jsonb", false⟩ ∈ past.log → Equipped past.log c
  placed : InOrder Placed past.log

section
variable {holds : List Event → Event → Prop} {log more : List Event} {c : Connection} {e : Event}

theorem InOrder.append (hlog : InOrder holds log) (hmore : InOrder (fun before => holds (log ++ before)) more) :
    InOrder holds (log ++ more) := by
  intro before e after heq
  -- The event is one of the further ones, or one of the log; the first of the further ones is met on the border.
  rcases List.append_eq_append_iff.mp heq with ⟨between, rfl, hmore'⟩ | ⟨between, rfl, hrest⟩
  · exact hmore between e after hmore'
  · cases between with
    | nil =>
      have hfirst := hmore [] e after hrest.symm
      rwa [List.append_nil, List.append_nil] at hfirst
    | cons e' between =>
      cases hrest
      exact hlog before e between rfl

theorem inOrder_nil : InOrder holds [] := fun before e after h => by simp at h

theorem inOrder_cons (hfirst : holds [] e) (hmore : InOrder (fun before => holds (e :: before)) more) :
    InOrder holds (e :: more) := by
  have hone : InOrder holds [e] := by
    intro before e' after h
    cases before with
    | nil =>
      cases h
      exact hfirst
    | cons e'' before => simp at h
  exact hone.append hmore

theorem placed_statement {u : Use} {call : DriverCall} (hruns : call.RunsStatement)
    (hequipped : ProcessEquipped log u.connection.process) : Placed log (u.event call) := by
  refine ⟨fun _ => hequipped, fun type htype => ?_⟩
  cases (show call = .setCodec type from htype)
  exact absurd hruns id

theorem placed_setup {type : String} {failed : Bool} (hnew : ¬ ProcessEquipped log c.process) :
    Placed log ⟨c, .setCodec type, failed⟩ := ⟨fun hruns => absurd hruns id, fun _ _ => hnew⟩

theorem ne_event_of_runsStatement {u : Use} {call : DriverCall} (hruns : call.RunsStatement) {type : String}
    {failed : Bool} : (⟨c, .setCodec type, failed⟩ : Event) ≠ u.event call := by
  intro heq
  have hcall : .setCodec type = call := congrArg Event.call heq
  rw [← hcall] at hruns
  exact hruns

theorem equipped_of_both (hfirst : ⟨c, .setCodec "json", false⟩ ∈ log) (hsecond : ⟨c, .setCodec "jsonb", false⟩ ∈ log) :
    Equipped log c := List.forall_mem_cons.mpr ⟨hfirst, List.forall_mem_singleton.mpr hsecond⟩

theorem Equipped.append (h : Equipped log c) (more : List Event) : Equipped (log ++ more) c :=
  fun type htype => List.mem_append_left more (h type htype)

theorem ProcessEquipped.append {process : Int} (h : ProcessEquipped log process) (more : List Event) :
    ProcessEquipped (log ++ more) process := by
  obtain ⟨c, hc, hequipped⟩ := h
  exact ⟨c, hc, hequipped.append more⟩

theorem Equipped.second (h : Equipped log c) : ⟨c, .setCodec "jsonb", false⟩ ∈ log := h "jsonb" (by decide)

end

namespace Tracked
variable {past : History} {u : Use} {more : List Event} {c : Connection}

theorem equipped_of_append (h : Tracked past) (hmore : ∀ c, ⟨c, .setCodec "jsonb", false⟩ ∉ more)
    (hequipped : Equipped (past.log ++ more) c) : Equipped past.log c :=
  h.complete c ((List.mem_append.mp hequipped.second).resolve_right (hmore c))

theorem processEquipped_append_iff (h : Tracked past) (hmore : ∀ c, ⟨c, .setCodec "jsonb", false⟩ ∉ more) (process : Int) :
    ProcessEquipped (past.log ++ more) process ↔ ProcessEquipped past.log process :=
  ⟨fun ⟨c, hc, hequipped⟩ => ⟨c, hc, h.equipped_of_append hmore hequipped⟩, fun h => h.append more⟩

/-- Events that do not set up the second codec leave all as it is. -/
theorem append (h : Tracked past) (hmore : ∀ c, ⟨c, .setCodec "jsonb", false⟩ ∉ more)
    (hplaced : InOrder (fun before => Placed (past.log ++ before)) more) :
    Tracked ⟨past.registered, past.log ++ more⟩ where
  registered process := (h.registered process).trans (h.processEquipped_append_iff hmore process).symm
  complete c hc := (h.complete c ((List.mem_append.mp hc).resolve_right (hmore c))).append more
  placed := h.placed.append hplaced

theorem not_processEquipped (h : Tracked past) (hnew : u.connection.process ∉ past.registered)
    (hmore : ∀ c, ⟨c, .setCodec "jsonb", false⟩ ∉ more) : ¬ ProcessEquipped (past.log ++ more) u.connection.process :=
  fun hequipped => hnew ((h.registered _).mpr ((h.processEquipped_append_iff hmore _).mp hequipped))

theorem equip (h : Tracked past) (hnew : u.connection.process ∉ past.registered) {c : DriverCall} (hruns : c.RunsStatement) :
    Tracked ⟨past.registered ++ [u.connection.process], past.log ++ [⟨u.connection, .setCodec "json", false⟩,
      ⟨u.connection, .setCodec "jsonb", false⟩, u.event c]⟩ := by
  have hequipped : Equipped (past.log ++ [⟨u.connection, .setCodec "json", false⟩, ⟨u.connection, .setCodec "jsonb", false⟩])
      u.connection := equipped_of_both (by simp) (by simp)
  generalize hmore : [⟨u.connection, .setCodec "json", false⟩, ⟨u.connection, .setCodec "jsonb", false⟩, u.event c] = more
  have hsecond {c' : Connection} (hc' : ⟨c', .setCodec "jsonb", false⟩ ∈ more) : c' = u.connection := by
    rw [← hmore] at hc'
    rcases List.mem_cons.mp hc' with heq | hc'
    · simp at heq
    rcases List.mem_cons.mp hc' with heq | hc'
    · exact congrArg Event.connection heq
    · exact absurd (List.mem_singleton.mp hc') (ne_event_of_runsStatement hruns)
  have hafter : Equipped (past.log ++ more) u.connection := by
    rw [← hmore]
    exact equipped_of_both (by simp) (by simp)
  refine ⟨fun process => ⟨fun hprocess => ?_, fun ⟨c', hprocess, hc'⟩ => ?_⟩, fun c' hc' => ?_, h.placed.append ?_⟩
  · rcases List.mem_append.mp hprocess with hprocess | hprocess
    · exact ((h.registered process).mp hprocess).append more
    · exact ⟨u.connection, (List.mem_singleton.mp hprocess).symm, hafter⟩
  · rcases List.mem_append.mp hc'.second with hc' | hc'
    · exact List.mem_append_left _ ((h.registered process).mpr ⟨c', hprocess, h.complete c' hc'⟩)
    · rw [← hprocess, hsecond hc']
      exact List.mem_append_right _ (List.mem_singleton_self _)
  · rcases List.mem_append.mp hc' with hc' | hc'
    · exact (h.complete c' hc').append more
    · rw [hsecond hc']
      exact hafter
  · rw [← hmore]
    refine inOrder_cons (placed_setup (h.not_processEquipped hnew (by simp))) ?_
    refine inOrder_cons (placed_setup (h.not_processEquipped hnew (by simp))) ?_
    exact inOrder_cons (placed_statement hruns ⟨u.connection, rfl, hequipped⟩) inOrder_nil

theorem next (h : Tracked past) (u : Use) : Tracked (past.next u) := by
  have hcomes := u.comesTo past.registered
  unfold History.next
  generalize u.calls past.registered = calls, u.registers past.registered = registered at hcomes
  -- Only the last case sets up a second codec, and only there does a process become known.
  cases hcomes with
  | nothing _ =>
    rw [List.map_nil, List.append_nil]
    exact h
  | known _ hknown hruns =>
    have hequipped := ((h.registered _).mp hknown).append []
    refine h.append (fun c hc => ?_) (inOrder_cons (placed_statement hruns hequipped) inOrder_nil)
    exact ne_event_of_runsStatement hruns (List.mem_singleton.mp hc)
  | firstFails _ hnew hfirst =>
    rw [List.map_singleton, Use.event_of_fails hfirst]
    exact h.append (by simp) (inOrder_cons (placed_setup (h.not_processEquipped hnew (by simp))) inOrder_nil)
  | secondFails _ hnew hfirst hsecond =>
    rw [List.map_cons, List.map_singleton, Use.event_of_succeeds hfirst, Use.event_of_fails hsecond]
    refine h.append (by simp) (inOrder_cons (placed_setup (h.not_processEquipped hnew (by simp))) ?_)
    exact inOrder_cons (placed_setup (h.not_processEquipped hnew (by simp))) inOrder_nil
  | equipped _ hnew hfirst hsecond hruns =>
    rw [List.map_cons, List.map_cons, List.map_singleton, Use.event_of_succeeds hfirst, Use.event_of_succeeds hsecond]
    exact h.equip hnew hruns

theorem ofUses (uses : List Use) : Tracked (.ofUses uses) := by
  have hstart : Tracked ⟨[], []⟩ := by
    refine ⟨fun process => ⟨(fun h => nomatch h), fun ⟨c, _, hc⟩ => ?_⟩, (fun c hc => nomatch hc), inOrder_nil⟩
    exact nomatch hc.second
  unfold History.ofUses
  generalize (⟨[], []⟩ : History) = past at hstart ⊢
  induction uses generalizing past with
  | nil => exact hstart
  | cons u uses ih => exact ih _ (hstart.next u)

/-- On a connection to a process that is known to have codecs nothing is called but the statement. -/
theorem calls_of_processEquipped (h : Tracked past) (hreaches : u.Reaches)
    (hequipped : ProcessEquipped past.log u.connection.process) :
    ∃ c, c.RunsStatement ∧ u.calls past.registered = [c] := by
  have hknown := (h.registered _).mpr hequipped
  have hcomes := u.comesTo past.registered
  generalize u.calls past.registered = calls, u.registers past.registered = registered at hcomes
  cases hcomes with
  | nothing hnot => exact absurd hreaches hnot
  | known _ _ hruns => exact ⟨_, hruns, rfl⟩
  | firstFails _ hnew _ => exact absurd hknown hnew
  | secondFails _ hnew _ _ => exact absurd hknown hnew
  | equipped _ hnew _ _ _ => exact absurd hknown hnew

/-- On any other connection the codecs are set up, and the statement is run if that succeeds. -/
theorem calls_of_not_processEquipped (h : Tracked past) (hreaches : u.Reaches)
    (hnone : ¬ ProcessEquipped past.log u.connection.process) :
    (u.Ready → Equipped (past.next u).log u.connection ∧ ∃ c, c.RunsStatement ∧
      u.calls past.registered = [.setCodec "json", .setCodec "jsonb", c]) ∧
    (¬ u.Ready → ¬ Equipped (past.next u).log u.connection ∧ .setCodec "json" ∈ u.calls past.registered ∧
      ∀ c ∈ u.calls past.registered, ¬ c.RunsStatement) := by
  have hnew := mt (h.registered _).mp hnone
  have hcomes := u.comesTo past.registered
  unfold History.next
  generalize u.calls past.registered = calls, u.registers past.registered = registered at hcomes
  have hstays {more : List Event} (hmore : ∀ c, ⟨c, .setCodec "jsonb", false⟩ ∉ more) :
      ¬ Equipped (past.log ++ more) u.connection :=
    fun hequipped => hnone ⟨u.connection, rfl, h.equipped_of_append hmore hequipped⟩
  cases hcomes with
  | nothing hnot => exact absurd hreaches hnot
  | known _ hknown _ => exact absurd hknown hnew
  | firstFails _ _ hfirst =>
    refine ⟨fun hready => ?_, fun _ => ⟨?_, by simp, List.forall_mem_singleton.mpr id⟩⟩
    · cases hfirst.symm.trans (hready "json" (by decide))
    · rw [List.map_singleton, Use.event_of_fails hfirst]
      exact hstays (by simp)
  | secondFails _ _ hfirst hsecond =>
    refine ⟨fun hready => ?_, fun _ => ⟨?_, by simp, List.forall_mem_cons.mpr ⟨id, List.forall_mem_singleton.mpr id⟩⟩⟩
    · cases hsecond.symm.trans (hready "jsonb" (by decide))
    · rw [List.map_cons, List.map_singleton, Use.event_of_succeeds hfirst, Use.event_of_fails hsecond]
      exact hstays (by simp)
  | equipped _ _ hfirst hsecond hruns =>
    refine ⟨fun _ => ⟨?_, _, hruns, rfl⟩, fun hnot => ?_⟩
    · rw [List.map_cons, List.map_cons, Use.event_of_succeeds hfirst, Use.event_of_succeeds hsecond]
      exact equipped_of_both (by simp) (by simp)
    · exact (hnot (List.forall_mem_cons.mpr ⟨hfirst, List.forall_mem_singleton.mpr hsecond⟩)).elim

end Tracked

theorem exists_use_of_mem {uses : List Use} {e : Event} (he : e ∈ (History.ofUses uses).log) :
    ∃ u ∈ uses, u.connection = e.connection := by
  have hfold : ∀ (uses : List Use) (past : History), e ∈ (uses.foldl History.next past).log →
      e ∈ past.log ∨ ∃ u ∈ uses, u.connection = e.connection := by
    intro uses
    induction uses with
    | nil => exact fun past h => .inl h
    | cons u uses ih =>
      intro past h
      rcases ih _ h with h | ⟨u', hu', hconnection⟩
      · rcases List.mem_append.mp h with h | h
        · exact .inl h
        · obtain ⟨c, -, rfl⟩ := List.mem_map.mp h
          exact .inr ⟨u, List.mem_cons_self, rfl⟩
      · exact .inr ⟨u', List.mem_cons_of_mem u hu', hconnection⟩
  exact (hfold uses _ he).resolve_left (List.not_mem_nil)

/-- Statements and codecs on PostgreSQL connections, over any uses of any connections. A statement is run on a connection
    that both codecs were set up on before, or else on one to a process of which another connection had them set up; and
    on neither kind of connection is a codec set up again. Any other connection is tried at each use: if both codecs can
    be set up then the statement is run, and if not then no statement is run and the connection is as before. So if no two
    connections lead to processes of one number, then every statement is run on a connection with codecs. -/
theorem statements_after_codecs (uses : List Use) :
    let past := History.ofUses uses
    (∀ before e after, past.log = before ++ e :: after →
      (e.call.RunsStatement → Equipped before e.connection ∨
        ∃ c, c ≠ e.connection ∧ c.process = e.connection.process ∧ Equipped before c) ∧
      (∀ type, e.call = .setCodec type → ∀ c, c.process = e.connection.process → ¬ Equipped before c)) ∧
    (∀ u : Use,
      (¬ u.Reaches → u.calls past.registered = []) ∧
      (u.Reaches → ProcessEquipped past.log u.connection.process →
        ∃ c, c.RunsStatement ∧ u.calls past.registered = [c]) ∧
      (u.Reaches → ¬ ProcessEquipped past.log u.connection.process →
        (u.Ready → Equipped (past.next u).log u.connection ∧ ∃ c, c.RunsStatement ∧
          u.calls past.registered = [.setCodec "json", .setCodec "jsonb", c]) ∧
        (¬ u.Ready → ¬ Equipped (past.next u).log u.connection ∧ .setCodec "json" ∈ u.calls past.registered ∧
          ∀ c ∈ u.calls past.registered, ¬ c.RunsStatement))) ∧
    ((∀ u ∈ uses, ∀ u' ∈ uses, u.connection.process = u'.connection.process → u.connection = u'.connection) →
      ∀ before e after, past.log = before ++ e :: after → e.call.RunsStatement → Equipped before e.connection) := by
  intro past
  have h : Tracked past := .ofUses uses
  refine ⟨fun before e after heq => ⟨fun hruns => ?_, fun type htype c hprocess hc => ?_⟩, fun u => ⟨?_, ?_, ?_⟩,
    fun hapart before e after heq hruns => ?_⟩
  · obtain ⟨c, hprocess, hc⟩ := (h.placed before e after heq).statement hruns
    by_cases hsame : c = e.connection
    · exact .inl (hsame ▸ hc)
    · exact .inr ⟨c, hsame, hprocess, hc⟩
  · exact (h.placed before e after heq).setup type htype ⟨c, hprocess, hc⟩
  · exact fun hnot => (Use.calls_of_not_reaches hnot _).1
  · exact h.calls_of_processEquipped
  · exact h.calls_of_not_processEquipped
  · obtain ⟨c, hprocess, hc⟩ := (h.placed before e after heq).statement hruns
    have hlog {e' : Event} (he' : e' ∈ before ++ e :: after) : ∃ u ∈ uses, u.connection = e'.connection :=
      exists_use_of_mem (heq ▸ he')
    obtain ⟨u, hu, hconnection⟩ := hlog (List.mem_append_right before List.mem_cons_self)
    obtain ⟨u', hu', hconnection'⟩ := hlog (List.mem_append_left (e :: after) hc.second)
    -- Both connections are those of uses, so one process is one connection.
    have hsame : c = e.connection := by
      rw [← hconnection, ← show u'.connection = c from hconnection']
      refine hapart u' hu' u hu ?_
      rw [hconnection, show u'.connection = c from hconnection', hprocess]
    exact hsame ▸ hc

/-- The second codec of a connection from a pool fails at first and is tried again. Another connection, to a process of the
    same number, runs a statement without codecs. -/
theorem statements_after_codecs_reused :
    let refused : Failure := .driver ⟨"InterfaceError", [.text "cannot set the codec"], .none⟩
    let pool : Adapter := ⟨.postgresql, .standard, true, false, [7], 0, []⟩
    let slow : Handle := ⟨fun | .setCodec "jsonb" => some refused | _ => none, [], .null, .null, .null, .null⟩
    let well : Handle := ⟨fun _ => none, [], .null, .null, .null, .null⟩
    let first : Connection := ⟨0, 7⟩
    let second : Connection := ⟨1, 7⟩
    let use (c : Connection) (hc : pool.process = c.process) (h : Handle) : Use :=
      ⟨c, pool, h, ⟨.rows, ⟨"SELECT 1", []⟩, .null⟩, rfl, hc⟩
    let failing := use first rfl slow
    let again := use first rfl well
    let other := use second rfl well
    let past := History.ofUses [failing, again]
    (failing.Reaches ∧ ¬ failing.Ready ∧ again.Reaches ∧ again.Ready ∧ other.Reaches) ∧
      ¬ Equipped (History.ofUses [failing]).log first ∧ Equipped past.log first ∧ ¬ Equipped past.log second ∧
      ∃ c, c.RunsStatement ∧ other.calls past.registered = [c] := by
  intro refused pool slow well first second use failing again other past
  have hwritten : Dialect.postgresql.render "SELECT 1" [] = .ok ("SELECT 1", []) := rfl
  have hreaches (c : Connection) (hc : pool.process = c.process) (h : Handle) (hacquire : h.fails .acquire = none) :
      (use c hc h).Reaches := ⟨⟨_, hwritten⟩, rfl, connects_eq_true.mpr fun _ => hacquire⟩
  have hnotReady : ¬ failing.Ready := fun hready => nomatch hready "jsonb" (by decide)
  have hready : again.Ready := fun _ _ => rfl
  have hstart : ¬ ProcessEquipped (History.ofUses []).log 7 := fun ⟨_, _, hc⟩ => nomatch hc.second
  have hfailed := (((statements_after_codecs []).2.1 failing).2.2 (hreaches _ _ _ rfl) hstart).2 hnotReady
  have honly {c : Connection} {uses : List Use} (huses : ∀ u ∈ uses, u.connection = first)
      (hc : Equipped (History.ofUses uses).log c) : c = first := by
    obtain ⟨u, hu, hconnection⟩ := exists_use_of_mem hc.second
    exact hconnection.symm.trans (huses u hu)
  have hnone : ¬ ProcessEquipped (History.ofUses [failing]).log 7 := by
    rintro ⟨c, -, hc⟩
    have hsame : c = first := honly (by simp [failing, use]) hc
    rw [hsame] at hc
    exact hfailed.1 hc
  have hequipped := (((statements_after_codecs [failing]).2.1 again).2.2 (hreaches _ _ _ rfl) hnone).1 hready
  have hother := ((statements_after_codecs [failing, again]).2.1 other).2.1 (hreaches _ _ _ rfl) ⟨first, rfl, hequipped.1⟩
  refine ⟨⟨hreaches _ _ _ rfl, hnotReady, hreaches _ _ _ rfl, hready, hreaches _ _ _ rfl⟩, hfailed.1, hequipped.1,
    fun hsecond => ?_, hother⟩
  have hsame : second = first := honly (by simp [failing, again, use]) hsecond
  exact absurd hsame (by decide)

end PostgreSql
end TableQuery
