import Mathlib.Tactic.Ring
import TableQuery.Proofs.Histories
import TableQuery.Proofs.MadeQueries
import TableQuery.Proofs.ReadRequests
import TableQuery.Proofs.SoundQueries

/-! Pages. What a page shows is a window of the rows that the query selects; the windows of the pages lie side by side
    and leave no row out. The rows on all pages are counted first, under the predicate of the page itself. -/

namespace TableQuery
open Program

/-- Settings under which pages can be counted from one and hold at least one row. -/
structure Settings.Valid (s : Settings) : Prop where
  page : 1 ≤ s.defaultPage
  pageSize : 1 ≤ s.defaultPageSize
  limit : 1 ≤ s.maxLimit

/-- How many rows are shown, and how many are left out in front of them. -/
structure Window where
  size : Nat
  offset : Int

namespace Window

/-- The bounds of a statement that reads a window. -/
def bounds (v : Window) : Statement :=
  if v.offset = 0 then ⟨" LIMIT ?", [.int v.size]⟩ else ⟨" LIMIT ? OFFSET ?", [.int v.size, .int v.offset]⟩

/-- The row at a position is shown. -/
def Shows (v : Window) (i : Nat) : Prop := v.offset ≤ i ∧ (i : Int) < v.offset + v.size

end Window

namespace Query

/-- The window of the page that a query asks for. -/
def window (q : Query) (s : Settings) : Window :=
  ⟨q.effectivePageSize s, ((q.effectivePage s : Int) - 1) * q.effectivePageSize s⟩

/-- A statement that reads rows, within that window. -/
def within (q : Query) (s : Settings) (statement : Select) : Select :=
  { statement with
    limit := some (q.effectivePageSize s : Int)
    offset := some (((q.effectivePage s : Int) - 1) * q.effectivePageSize s) }

/-- The query, turned to a page. -/
def onPage (q : Query) (n : Nat) : Query := { q with page := some n }

end Query

/-- The bounds within which a query reads rows: those of the page that it names; of one that names none its limit, if
    there is any, which is no more than the settings allow. -/
inductive Query.ReadBounds (q : Query) (s : Settings) : Statement → Prop
  | page : q.page.isSome = true → ReadBounds q s (q.window s).bounds
  | all : q.page = none → q.limit = none → ReadBounds q s ⟨"", []⟩
  | limited {n : Nat} : q.page = none → 1 ≤ n → n ≤ s.maxLimit → ReadBounds q s ⟨" LIMIT ?", [.int n]⟩

namespace Statement

/-- A statement counts the rows of a predicate. -/
def CountsRows (st : Statement) (s : Selection) (p : Predicate) : Prop :=
  st.sql = "SELECT COUNT(*) FROM " ++ s.dialect.quote s.table.name ++ p.whereClause ∧ st.params = p.params

/-- A statement reads the rows of a predicate within bounds. Names say which columns it shows, and in which order. -/
def ReadsWithin (st : Statement) (s : Selection) (p : Predicate) (bounds : Statement) : Prop := ∃ shape : Select,
  (∀ column ∈ shape.columns, isName column = true) ∧ (∀ entry ∈ shape.order, isName entry.1 = true) ∧
    st.sql = "SELECT " ++ shape.projection s.dialect ++ " FROM " ++ s.dialect.quote s.table.name ++ p.whereClause ++
      shape.orderText s.dialect ++ bounds.sql ∧
    st.params = p.params ++ bounds.params

end Statement

/-- The first thing that a program does is to ask. -/
def Program.Starts {α : Type} (prog : Program α) (r : Request) : Prop := ∃ next, prog = .ask r next

namespace Selection

/-- A page was read: first its rows were counted under a predicate, then those of its window were read under the same
    predicate. -/
inductive PageRead (s : Selection) (p : Predicate) (window : Window) (limit : Value) : List Exchange → Prop
  | read {count st : Statement} {v : Value} {rows : List Row} {more : List Exchange} : count.CountsRows s p →
    st.ReadsWithin s p window.bounds →
    PageRead s p window limit (.answered ⟨.value, count, limit⟩ v :: .answered ⟨.rows, st, limit⟩ rows :: more)

/-- What is asked for a page after what went before: the number of rows under the predicate, then the rows of the
    window under the same predicate, and then related rows. -/
inductive PageAsks (s : Selection) (p : Predicate) (window : Window) (limit : Value) :
    List Exchange → Request → Prop
  | count {st : Statement} : st.CountsRows s p → PageAsks s p window limit [] ⟨.value, st, limit⟩
  | rows {count st : Statement} {v : Value} : count.CountsRows s p → st.ReadsWithin s p window.bounds →
    PageAsks s p window limit [.answered ⟨.value, count, limit⟩ v] ⟨.rows, st, limit⟩
  | related {past : List Exchange} {link : Link} {target : Table} {keys : List Value} : s.PageRead p window limit past →
    PageAsks s p window limit past ⟨.rows, Preload.statement s.dialect link target keys, limit⟩

/-- Rows were read first of all, those of a predicate within the bounds of the query. -/
inductive RowsRead (s : Selection) (p : Predicate) (limit : Value) : List Exchange → Prop
  | read {st bounds : Statement} {rows : List Row} {more : List Exchange} : s.query.ReadBounds s.settings bounds →
    st.ReadsWithin s p bounds → RowsRead s p limit (.answered ⟨.rows, st, limit⟩ rows :: more)

/-- What is asked for rows: those of the predicate within the bounds of the query, and then related rows. -/
inductive RowsAsks (s : Selection) (p : Predicate) (limit : Value) : List Exchange → Request → Prop
  | rows {st bounds : Statement} : s.query.ReadBounds s.settings bounds → st.ReadsWithin s p bounds →
    RowsAsks s p limit [] ⟨.rows, st, limit⟩
  | related {past : List Exchange} {link : Link} {target : Table} {keys : List Value} : s.RowsRead p limit past →
    RowsAsks s p limit past ⟨.rows, Preload.statement s.dialect link target keys, limit⟩

end Selection

/-! ### Counts -/

namespace Query
variable {q : Query} {s : Settings}

theorem one_le_of_ne_zero {o : Option Nat} {n d : Nat} (h : o ≠ some 0) (hd : 1 ≤ d) (hn : o.getD d = n) : 1 ≤ n := by
  subst hn
  cases o with
  | none => exact hd
  | some m =>
    refine Nat.one_le_iff_ne_zero.mpr fun hm => h ?_
    exact congrArg some hm

theorem one_le_effectivePage (hs : s.Valid) (hq : q.Counted) : 1 ≤ q.effectivePage s :=
  one_le_of_ne_zero hq.page hs.page rfl

theorem one_le_effectivePageSize (hs : s.Valid) (hq : q.Counted) : 1 ≤ q.effectivePageSize s := by
  have hsize : (q.pageSize.orElse fun _ => q.limit) ≠ some 0 := by
    cases hsize : q.pageSize with
    | none => exact hq.limit
    | some n => exact fun h => hq.pageSize (hsize.trans h)
  exact le_min (one_le_of_ne_zero hsize hs.pageSize rfl) hs.limit

theorem effectivePageSize_le (q : Query) (s : Settings) : q.effectivePageSize s ≤ s.maxLimit := min_le_right _ _

theorem effectiveLimit_bounds (hs : s.Valid) (hq : q.Counted) {n : Nat} (h : q.effectiveLimit s = some n) :
    1 ≤ n ∧ n ≤ s.maxLimit := by
  obtain ⟨m, hm, rfl⟩ := Option.map_eq_some_iff.mp h
  have hne : m ≠ 0 := by
    rintro rfl
    exact hq.limit hm
  exact ⟨le_min (Nat.one_le_iff_ne_zero.mpr hne) hs.limit, min_le_right _ _⟩

/-! ### Windows -/

theorem offset_nonneg (hs : s.Valid) (hq : q.Counted) : 0 ≤ (q.window s).offset := by
  have hpage : (1 : Int) ≤ q.effectivePage s := by exact_mod_cast one_le_effectivePage hs hq
  exact Int.mul_nonneg (by omega) (Int.natCast_nonneg _)

theorem offset_onPage_one (q : Query) (s : Settings) : ((q.onPage 1).window s).offset = 0 := by
  show ((1 : Int) - 1) * _ = 0
  rw [sub_self, zero_mul]

/-- The window of a page starts where that of the page before it stops. -/
theorem offset_onPage_succ (q : Query) (s : Settings) (n : Nat) :
    ((q.onPage (n + 1)).window s).offset = ((q.onPage n).window s).offset + (q.window s).size := by
  show (((n + 1 : Nat) : Int) - 1) * (q.effectivePageSize s : Int) = ((n : Int) - 1) * q.effectivePageSize s +
    q.effectivePageSize s
  push_cast
  ring

/-- Every row is shown on exactly one page. -/
theorem exists_unique_page (hs : s.Valid) (hq : q.Counted) (i : Nat) :
    ∃! n, 1 ≤ n ∧ ((q.onPage n).window s).Shows i := by
  have hsize := one_le_effectivePageSize hs hq
  -- Page `n + 1` shows the `n`th block of `k` rows, so the page of a row is found by division.
  generalize hk : q.effectivePageSize s = k at hsize
  have hshows : ∀ n : Nat, ((q.onPage (n + 1)).window s).Shows i ↔ n * k ≤ i ∧ i < n * k + k := by
    intro n
    have hoffset : ((q.onPage (n + 1)).window s).offset = ((n * k : Nat) : Int) := by
      show (((n + 1 : Nat) : Int) - 1) * (q.effectivePageSize s : Int) = _
      rw [hk]
      push_cast
      ring
    have hwidth : ((q.onPage (n + 1)).window s).size = k := hk
    unfold Window.Shows
    rw [hoffset, hwidth]
    omega
  refine ⟨i / k + 1, ⟨Nat.le_add_left 1 _, (hshows _).mpr ⟨Nat.div_mul_le_self i k, Nat.lt_div_mul_add hsize⟩⟩, ?_⟩
  rintro n ⟨hn, hshown⟩
  obtain ⟨m, rfl⟩ := Nat.exists_eq_add_of_le' hn
  obtain ⟨hlow, hhigh⟩ := (hshows m).mp hshown
  have hm : i / k = m := by
    rw [Nat.div_eq_iff hsize]
    omega
  rw [hm]

end Query

/-! ### Beginnings -/

namespace Program
variable {α β : Type} {r : Request}

theorem starts_ask {r' : Request} {next : r'.kind.Answer → Program α} : (ask r' next).Starts r ↔ r = r' := by
  constructor
  · rintro ⟨_, h⟩
    injection h with hr
    exact hr.symm
  · rintro rfl
    exact ⟨next, rfl⟩

/-- A program that asks has computed what it needs for that. -/
theorem lift_bind_eq_ask {o : Outcome α} {k : α → Program β} {next : r.kind.Answer → Program β} :
    (lift o >>= k) = ask r next ↔ ∃ a, o = .ok a ∧ k a = ask r next := by
  cases o with
  | ok a =>
    constructor
    · exact fun h => ⟨a, rfl, h⟩
    · rintro ⟨_, ⟨⟩, h⟩
      exact h
  | error f =>
    constructor
    · exact fun h => nomatch h
    · rintro ⟨_, ⟨⟩, _⟩

theorem starts_lift_bind {o : Outcome α} {k : α → Program β} :
    (lift o >>= k).Starts r ↔ ∃ a, o = .ok a ∧ (k a).Starts r := by
  simp only [Starts, lift_bind_eq_ask]
  rw [exists_comm]
  simp only [exists_and_left]

end Program

/-! ### Statements -/

namespace Selection
variable {s : Selection} {p : Predicate} {timeout limit : Value} {statement : Select}

/-- All readings of a query are under one predicate. -/
theorem Reads.restriction_eq {q : Query} (h : s.Reads q statement) (hp : s.predicate q = .ok p) :
    statement.restriction = p := Except.ok.inj (h.restriction.symm.trans hp)

theorem countsRows_of_reads {q : Query} (h : s.Reads q statement) (hp : s.predicate q = .ok p) :
    (statement.count s.dialect).CountsRows s p := by
  obtain rfl := h.restriction_eq hp
  refine ⟨?_, rfl⟩
  unfold Select.count Select.fromText
  rw [h.table, ← String.append_assoc, ← String.append_assoc]
  rfl

theorem readsWithin_of_selects {q : Query} (h : s.Selects q statement) (hp : s.predicate q = .ok p)
    (size offset : Option Int) : (Select.rows { statement with limit := size, offset } s.dialect).ReadsWithin s p
      (Select.paging { statement with limit := size, offset }) := by
  obtain rfl := h.restriction_eq hp
  refine ⟨statement, h.columns, h.order, ?_, rfl⟩
  show "SELECT " ++ statement.projection s.dialect ++ " " ++
    ("FROM " ++ s.dialect.quote statement.table ++ statement.restriction.whereClause) ++ _ ++ _ = _
  rw [h.table]
  simp only [String.append_assoc]
  rfl

/-- How the reading of rows goes on, once all is checked. -/
theorem fetch_eq_ask (statement : Select) (q : Query) (preloads : List Preload) (limit : Value) :
    ∃ next, s.fetch statement q preloads limit = .ask ⟨.rows, statement.rows s.dialect, limit⟩ next ∧
      ∀ rows, (next rows).Always (fun r => ∃ link target keys,
        r = ⟨.rows, Preload.statement s.dialect link target keys, limit⟩) fun _ => True := by
  refine ⟨_, rfl, fun rows => ?_⟩
  refine always_bind.mpr (always_done.mpr (always_lift_bind.mpr fun decoded _ => ?_))
  refine (Preload.always_loadAll preloads decoded fun _ _ link target keys _ => ⟨link, target, keys, rfl⟩).bind fun _ => ?_
  exact always_lift.mpr fun _ _ => trivial

/-- The rows are read first, and then related rows, with that reading in the past. -/
theorem fetch_along {asked : List Exchange → Request → Prop} {past : List Exchange} {q : Query}
    {preloads : List Preload} (hrows : asked past ⟨.rows, statement.rows s.dialect, limit⟩)
    (hrelated : ∀ (rows : List Row) more link target keys,
      asked (past ++ [.answered ⟨.rows, statement.rows s.dialect, limit⟩ rows] ++ more)
        ⟨.rows, Preload.statement s.dialect link target keys, limit⟩) :
    (s.fetch statement q preloads limit).Along asked (fun now _ => ∃ (rows : List Row) (more : List Exchange),
      now = past ++ [.answered ⟨.rows, statement.rows s.dialect, limit⟩ rows] ++ more) past := by
  obtain ⟨next, hfetch, hnext⟩ := fetch_eq_ask (s := s) statement q preloads limit
  rw [hfetch]
  refine ⟨hrows, fun rows => ((hnext rows).along_past ?_).mono ?_⟩
  · rintro more r ⟨link, target, keys, rfl⟩
    exact hrelated rows more link target keys
  · rintro now - ⟨⟨more, hnow⟩, -⟩
    exact ⟨rows, more, hnow.symm⟩

/-! ### Pages -/

theorem exists_aggregateSelect {preloads : List Preload} (hprepare : s.prepare s.query = .ok preloads)
    (hp : s.predicate s.query = .ok p) : ∃ statement, s.aggregateSelect = .ok statement := by
  have hsame : s.predicate s.query.forAggregate = s.predicate s.query := rfl
  unfold aggregateSelect
  rw [hprepare, hsame, hp]
  exact ⟨_, rfl⟩

/-- A statement that reads rows, within the bounds that the query of a selection asks for. -/
def bounded (s : Selection) (statement : Select) : Select :=
  { statement with
    limit := (s.bounds s.query).1
    offset := (s.bounds s.query).2 }

theorem bounded_of_page (hpage : s.query.page.isSome = true) (statement : Select) :
    s.bounded statement = s.query.within s.settings statement := by
  obtain ⟨number, hnumber⟩ := Option.isSome_iff_exists.mp hpage
  unfold bounded bounds Query.within Query.effectivePage
  rw [hnumber]
  rfl

theorem bounded_of_no_page (hpage : s.query.page = none) (statement : Select) : s.bounded statement =
    { statement with limit := (s.query.effectiveLimit s.settings).map Int.ofNat, offset := none } := by
  unfold bounded bounds
  rw [hpage]

/-- What a page does after its rows are counted. -/
def afterCount (s : Selection) (preloads : List Preload) (limit v : Value) : Program (Pager Value) := do
  let total ← lift v.toCount
  let statement ← lift (s.select s.query preloads)
  let data ← s.fetch (s.query.within s.settings statement) s.query preloads limit
  let last ← lift (lastPageOf total (s.query.effectivePageSize s.settings))
  done ⟨s.query.effectivePage s.settings, total, last, data⟩

theorem page_eq (s : Selection) (timeout : Value) :
    s.page timeout = lift (s.prepare s.query) >>= fun preloads => lift s.aggregateSelect >>= fun counted =>
      ask ⟨.value, counted.count s.dialect, s.callTimeout timeout⟩ (s.afterCount preloads (s.callTimeout timeout)) := by
  show (lift (s.prepare s.query) >>= _) = _
  cases s.prepare s.query with
  | error f => rfl
  | ok preloads =>
    show ((lift s.aggregateSelect >>= _) >>= _) = _
    cases s.aggregateSelect with
    | error f => rfl
    | ok counted => rfl

theorem page_eq_ask {preloads : List Preload} (hprepare : s.prepare s.query = .ok preloads)
    (haggregate : s.aggregateSelect = .ok statement) : s.page timeout =
      ask ⟨.value, statement.count s.dialect, s.callTimeout timeout⟩
        (s.afterCount preloads (s.callTimeout timeout)) := by
  rw [page_eq, hprepare, haggregate]
  rfl

theorem readsWithin_window (h : s.Selects s.query statement) (hp : s.predicate s.query = .ok p) :
    ((s.query.within s.settings statement).rows s.dialect).ReadsWithin s p (s.query.window s.settings).bounds :=
  readsWithin_of_selects h hp _ _

theorem page_along (s : Selection) (timeout : Value) :
    (s.page timeout).Along (fun past r => ∃ p, s.predicate s.query = .ok p ∧
      s.PageAsks p (s.query.window s.settings) (s.callTimeout timeout) past r)
      (fun past pager => (∃ p, s.predicate s.query = .ok p ∧
          s.PageRead p (s.query.window s.settings) (s.callTimeout timeout) past) ∧
        pager.currentPage = (s.query.effectivePage s.settings : Int)) [] := by
  rw [page_eq]
  refine along_bind.mpr (along_lift.mpr fun preloads _ => along_bind.mpr (along_lift.mpr fun counted haggregate => ?_))
  have hcounted := reads_of_aggregateSelect haggregate
  have hp := hcounted.restriction
  have hcount := countsRows_of_reads hcounted hp
  refine ⟨⟨_, hp, .count hcount⟩, fun v => ?_⟩
  -- The rows are read under the predicate that they were counted under, since both are that of the query.
  refine along_bind.mpr (along_lift.mpr fun total _ => along_bind.mpr (along_lift.mpr fun statement hselect => ?_))
  have hwithin := readsWithin_window (selects_of_select hselect) hp
  refine along_bind.mpr ((fetch_along ⟨_, hp, .rows hcount hwithin⟩ fun rows more link target keys => ?_).mono ?_)
  · exact ⟨_, hp, .related (.read hcount hwithin)⟩
  · rintro now data ⟨rows, more, rfl⟩
    exact along_bind.mpr (along_lift.mpr fun last _ => ⟨⟨_, hp, .read hcount hwithin⟩, rfl⟩)

/-! ### Lists -/

theorem exists_readBounds (hs : s.settings.Valid) (hq : s.query.Counted) (h : s.Selects s.query statement)
    (hp : s.predicate s.query = .ok p) : ∃ bounds, s.query.ReadBounds s.settings bounds ∧
      ((s.bounded statement).rows s.dialect).ReadsWithin s p bounds := by
  cases hpage : s.query.page with
  | some n =>
    have hsome : s.query.page.isSome = true := by rw [hpage]; rfl
    rw [bounded_of_page hsome]
    exact ⟨_, .page hsome, readsWithin_window h hp⟩
  | none =>
    rw [bounded_of_no_page hpage]
    have hwithin := readsWithin_of_selects h hp ((s.query.effectiveLimit s.settings).map Int.ofNat) none
    cases hlimit : s.query.effectiveLimit s.settings with
    | none =>
      rw [hlimit] at hwithin
      exact ⟨_, .all hpage (Option.map_eq_none_iff.mp hlimit), hwithin⟩
    | some n =>
      rw [hlimit] at hwithin
      obtain ⟨hlow, hhigh⟩ := Query.effectiveLimit_bounds hs hq hlimit
      exact ⟨_, .limited hpage hlow hhigh, hwithin⟩

theorem get_along (hs : s.settings.Valid) (hq : s.query.Counted) (timeout : Value) :
    (s.get timeout).Along (fun past r => ∃ p, s.predicate s.query = .ok p ∧
      s.RowsAsks p (s.callTimeout timeout) past r)
      (fun past _ => ∃ p, s.predicate s.query = .ok p ∧ s.RowsRead p (s.callTimeout timeout) past) [] := by
  refine along_bind.mpr (along_lift.mpr fun preloads hprepare => ?_)
  refine along_bind.mpr (along_lift.mpr fun statement hselect => ?_)
  have hselects := selects_of_select hselect
  have hp := hselects.restriction
  obtain ⟨bounds, hbounds, hwithin⟩ := exists_readBounds hs hq hselects hp
  refine (fetch_along ⟨_, hp, .rows hbounds hwithin⟩ fun rows more link target keys => ?_).mono ?_
  · exact ⟨_, hp, .related (.read hbounds hwithin)⟩
  · rintro now data ⟨rows, more, rfl⟩
    exact ⟨_, hp, .read hbounds hwithin⟩

/-! ### Pages as lists -/

section
variable {q : Query} {preloads : List Preload} {r : Request}

theorem starts_fetch : (s.fetch statement q preloads limit).Starts r ↔
    r = ⟨.rows, statement.rows s.dialect, limit⟩ := by
  obtain ⟨next, hfetch, -⟩ := fetch_eq_ask (s := s) statement q preloads limit
  rw [hfetch]
  exact starts_ask

theorem starts_fetch_bind {β : Type} {k : List Value → Program β} :
    (s.fetch statement q preloads limit >>= k).Starts r ↔ r = ⟨.rows, statement.rows s.dialect, limit⟩ := by
  obtain ⟨next, hfetch, -⟩ := fetch_eq_ask (s := s) statement q preloads limit
  rw [hfetch]
  exact starts_ask

theorem starts_get_iff : (s.get timeout).Starts r ↔ ∃ preloads, s.prepare s.query = .ok preloads ∧
    ∃ statement, s.select s.query preloads = .ok statement ∧
      r = ⟨.rows, (s.bounded statement).rows s.dialect, s.callTimeout timeout⟩ := by
  refine starts_lift_bind.trans (exists_congr fun preloads => and_congr_right fun _ => ?_)
  exact starts_lift_bind.trans (exists_congr fun statement => and_congr_right fun _ => starts_fetch)

theorem starts_afterCount_iff {v : Value} {n : Int} (hn : v.toCount = .ok n) :
    (s.afterCount preloads limit v).Starts r ↔ ∃ statement, s.select s.query preloads = .ok statement ∧
      r = ⟨.rows, (s.query.within s.settings statement).rows s.dialect, limit⟩ := by
  unfold afterCount
  rw [hn]
  show Program.Starts (lift (s.select s.query preloads) >>= _) r ↔ _
  exact starts_lift_bind.trans (exists_congr fun statement => and_congr_right fun _ => starts_fetch_bind)

end

/-- If a page starts with a count, then it goes on with the rows of the page. -/
theorem exists_afterCount {st : Statement} {next : Value → Program (Pager Value)}
    (h : s.page timeout = .ask ⟨.value, st, limit⟩ next) : ∃ preloads,
      s.prepare s.query = .ok preloads ∧ limit = s.callTimeout timeout ∧ next = s.afterCount preloads limit := by
  rw [page_eq] at h
  obtain ⟨preloads, hprepare, h⟩ := lift_bind_eq_ask.mp h
  obtain ⟨counted, -, h⟩ := lift_bind_eq_ask.mp h
  cases h
  exact ⟨preloads, hprepare, rfl, rfl⟩

/-- Where a query names a page, its rows are read by the statement that reads them for the page. -/
theorem starts_get_iff_page (hpage : s.query.page.isSome = true) (st : Statement) :
    (s.get timeout).Starts ⟨.rows, st, limit⟩ ↔ ∃ count next, s.page timeout = .ask ⟨.value, count, limit⟩ next ∧
      ∀ v n, v.toCount = .ok n → (next v).Starts ⟨.rows, st, limit⟩ := by
  rw [starts_get_iff]
  constructor
  · rintro ⟨preloads, hprepare, statement, hselect, hr⟩
    rw [bounded_of_page hpage] at hr
    obtain ⟨counted, haggregate⟩ := exists_aggregateSelect hprepare (reads_of_select hselect).restriction
    have hlimit := congrArg Request.timeout hr
    dsimp only at hlimit
    subst hlimit
    exact ⟨_, _, page_eq_ask hprepare haggregate, fun v n hn => (starts_afterCount_iff hn).mpr ⟨statement, hselect, hr⟩⟩
  · rintro ⟨count, next, h, hnext⟩
    obtain ⟨preloads, hprepare, rfl, rfl⟩ := exists_afterCount h
    -- Some count is needed to come to the rows.
    obtain ⟨statement, hselect, hr⟩ := (starts_afterCount_iff (n := 0) rfl).mp (hnext (.int 0) 0 rfl)
    rw [← bounded_of_page hpage] at hr
    exact ⟨preloads, hprepare, statement, hselect, hr⟩

/-! ### What is issued -/

/-- For a sound query a page starts with the count, and goes on with the rows of its window once that is answered. -/
theorem page_issues (ht : s.table.Made) (hq : s.Sound s.query) (hp : s.predicate s.query = .ok p) :
    ∃ count st next, s.page timeout = .ask ⟨.value, count, s.callTimeout timeout⟩ next ∧ count.CountsRows s p ∧
      st.ReadsWithin s p (s.query.window s.settings).bounds ∧
      ∀ v n, v.toCount = .ok n → (next v).Starts ⟨.rows, st, s.callTimeout timeout⟩ := by
  obtain ⟨preloads, hprepare⟩ := exists_prepare_iff.mpr hq
  obtain ⟨counted, haggregate⟩ := exists_aggregateSelect hprepare hp
  obtain ⟨statement, hselect⟩ := exists_select ht hprepare hp
  refine ⟨_, _, _, page_eq_ask hprepare haggregate, countsRows_of_reads (reads_of_aggregateSelect haggregate) hp,
    readsWithin_window (selects_of_select hselect) hp, fun v n hn => ?_⟩
  exact (starts_afterCount_iff hn).mpr ⟨statement, hselect, rfl⟩

theorem get_issues (hs : s.settings.Valid) (hcounted : s.query.Counted) (ht : s.table.Made) (hq : s.Sound s.query)
    (hp : s.predicate s.query = .ok p) : ∃ st bounds, (s.get timeout).Starts ⟨.rows, st, s.callTimeout timeout⟩ ∧
      s.query.ReadBounds s.settings bounds ∧ st.ReadsWithin s p bounds := by
  obtain ⟨preloads, hprepare⟩ := exists_prepare_iff.mpr hq
  obtain ⟨statement, hselect⟩ := exists_select ht hprepare hp
  obtain ⟨bounds, hbounds, hwithin⟩ := exists_readBounds hs hcounted (selects_of_select hselect) hp
  exact ⟨_, bounds, starts_get_iff.mpr ⟨preloads, hprepare, statement, hselect, rfl⟩, hbounds, hwithin⟩

/-- A page is read in two steps: its rows are counted, and then read under the same predicate, with the same text and
    values, within the window of its number. That is at least one row and no more than the settings allow, behind those
    of the pages before it. The windows of the pages follow each other without a gap, and each row is shown on exactly
    one page. Reading the rows of a query that names a page makes the statement of the page; of one that does not, no
    more rows than the settings allow if it has a limit. A sound query, of a table that was made, does get this far. -/
theorem pages_consistent {s : Selection} (hs : s.settings.Valid) (hq : s.query.Counted) (timeout : Value) :
    (s.page timeout).Along
      (fun past r => ∃ p, s.predicate s.query = .ok p ∧
        s.PageAsks p (s.query.window s.settings) (s.callTimeout timeout) past r)
      (fun past pager => (∃ p, s.predicate s.query = .ok p ∧
          s.PageRead p (s.query.window s.settings) (s.callTimeout timeout) past) ∧
        1 ≤ pager.currentPage ∧
        (s.query.window s.settings).offset = (pager.currentPage - 1) * (s.query.window s.settings).size) [] ∧
    (1 ≤ (s.query.window s.settings).size ∧ (s.query.window s.settings).size ≤ s.settings.maxLimit ∧
      0 ≤ (s.query.window s.settings).offset) ∧
    (((s.query.onPage 1).window s.settings).offset = 0 ∧
      (∀ n, ((s.query.onPage n).window s.settings).size = (s.query.window s.settings).size ∧
        ((s.query.onPage (n + 1)).window s.settings).offset =
          ((s.query.onPage n).window s.settings).offset + (s.query.window s.settings).size) ∧
      ∀ i, ∃! n, 1 ≤ n ∧ ((s.query.onPage n).window s.settings).Shows i) ∧
    (s.query.page.isSome = true → ∀ st limit, (s.get timeout).Starts ⟨.rows, st, limit⟩ ↔
      ∃ count next, s.page timeout = .ask ⟨.value, count, limit⟩ next ∧
        ∀ v n, v.toCount = .ok n → (next v).Starts ⟨.rows, st, limit⟩) ∧
    (s.get timeout).Along
      (fun past r => ∃ p, s.predicate s.query = .ok p ∧ s.RowsAsks p (s.callTimeout timeout) past r)
      (fun past _ => ∃ p, s.predicate s.query = .ok p ∧ s.RowsRead p (s.callTimeout timeout) past) [] ∧
    (s.table.Made → s.Sound s.query → ∀ p, s.predicate s.query = .ok p →
      (∃ count st next, s.page timeout = .ask ⟨.value, count, s.callTimeout timeout⟩ next ∧ count.CountsRows s p ∧
        st.ReadsWithin s p (s.query.window s.settings).bounds ∧
        ∀ v n, v.toCount = .ok n → (next v).Starts ⟨.rows, st, s.callTimeout timeout⟩) ∧
      ∃ st bounds, (s.get timeout).Starts ⟨.rows, st, s.callTimeout timeout⟩ ∧
        s.query.ReadBounds s.settings bounds ∧ st.ReadsWithin s p bounds) := by
  refine ⟨?_, ⟨?_, ?_, ?_⟩, ⟨?_, ?_, ?_⟩, ?_, ?_, ?_⟩
  · refine (page_along s timeout).mono fun past pager hread => ⟨hread.1, ?_⟩
    rw [hread.2]
    exact ⟨by exact_mod_cast Query.one_le_effectivePage hs hq, rfl⟩
  · exact Query.one_le_effectivePageSize hs hq
  · exact s.query.effectivePageSize_le s.settings
  · exact Query.offset_nonneg hs hq
  · exact s.query.offset_onPage_one s.settings
  · exact fun n => ⟨rfl, s.query.offset_onPage_succ s.settings n⟩
  · exact Query.exists_unique_page hs hq
  · exact fun hpage st limit => starts_get_iff_page hpage st
  · exact get_along hs hq timeout
  · exact fun ht hsound p hp => ⟨page_issues ht hsound hp, get_issues hs hq ht hsound hp⟩

/-- The third page of a query whose page size is above what the settings allow. -/
theorem pages_consistent_users :
    let users : Table := ⟨"users", "id", false, none, none, some "deleted_at", []⟩
    let s : Selection := { Selection.all .sqlite users { Settings.standard with maxLimit := 7 } with
      query := { Query.empty with page := some 3, pageSize := some 20, limit := some 5 } }
    let p : Predicate := ⟨"\"deleted_at\" IS NULL", []⟩
    (s.settings.Valid ∧ s.query.Counted ∧ s.query.page.isSome = true ∧ s.table.Made ∧ s.Sound s.query ∧
        s.predicate s.query = .ok p) ∧
      (s.query.window s.settings).size = 7 ∧ (s.query.window s.settings).offset = 14 ∧
      (s.page .null).Along
        (fun past r => ∃ p, s.predicate s.query = .ok p ∧ s.PageAsks p (s.query.window s.settings) .null past r)
        (fun past pager => (∃ p, s.predicate s.query = .ok p ∧ s.PageRead p (s.query.window s.settings) .null past) ∧
          1 ≤ pager.currentPage ∧
          (s.query.window s.settings).offset = (pager.currentPage - 1) * (s.query.window s.settings).size) [] ∧
      ∃ count st next, s.page .null = .ask ⟨.value, count, .null⟩ next ∧ count.CountsRows s p ∧
        st.ReadsWithin s p ⟨" LIMIT ? OFFSET ?", [.int 7, .int 14]⟩ ∧
        (next (.int 30)).Starts ⟨.rows, st, .null⟩ ∧ (s.get .null).Starts ⟨.rows, st, .null⟩ := by
  intro users s p
  have hs : s.settings.Valid := ⟨by decide, by decide, by decide⟩
  have hq : s.query.Counted := ⟨by decide, by decide, by decide⟩
  have ht : s.table.Made := .make (p := ⟨.text "users", .text "id", false, .null, .null, .text "deleted_at", []⟩)
    (List.forall_mem_nil _) (List.forall_mem_nil _) rfl
  have hsound : s.Sound s.query := exists_prepare_iff.mp ⟨[], rfl⟩
  have hp : s.predicate s.query = .ok p := rfl
  obtain ⟨halong, -, -, hget, -, hissues⟩ := pages_consistent hs hq .null
  obtain ⟨count, st, next, hpage, hcount, hwithin, hnext⟩ := (hissues ht hsound p hp).1
  exact ⟨⟨hs, hq, rfl, ht, hsound, hp⟩, rfl, rfl, halong, count, st, next, hpage, hcount, hwithin, hnext _ 30 rfl,
    (hget rfl st .null).mpr ⟨count, next, hpage, hnext⟩⟩

end Selection
end TableQuery
