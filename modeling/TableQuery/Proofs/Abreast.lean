import Mathlib.Data.List.Forall2
import TableQuery.Proofs.Requests

/-! Two programs abreast: step by step they make requests that are related, for rows that are the same and for values
    and changes that need not be. Once the store has answered them differently, one of them may give up before the
    other. -/

namespace TableQuery

/-- Two computations both end with results that are related, or both fail. -/
inductive Paired {ε α β : Type} (R : α → β → Prop) : Except ε α → Except ε β → Prop
  | ok {a : α} {b : β} : R a b → Paired R (.ok a) (.ok b)
  | error (e e' : ε) : Paired R (.error e) (.error e')

namespace Paired
variable {ε ε' α α' β β' : Type} {R : α → β → Prop} {S : α' → β' → Prop}

theorem bind {x : Except ε α} {y : Except ε β} {f : α → Except ε α'} {g : β → Except ε β'} (hxy : Paired R x y)
    (hfg : ∀ a b, R a b → Paired S (f a) (g b)) : Paired S (x >>= f) (y >>= g) := by
  cases hxy with
  | ok hr => exact hfg _ _ hr
  | error e e' => exact .error e e'

theorem mapM {f : α → Except ε α'} {g : β → Except ε β'} (hfg : ∀ a b, R a b → Paired S (f a) (g b)) {xs : List α}
    {ys : List β} (h : List.Forall₂ R xs ys) : Paired (List.Forall₂ S) (xs.mapM f) (ys.mapM g) := by
  induction h with
  | nil => exact .ok .nil
  | cons hr _ ih =>
    rw [List.mapM_cons, List.mapM_cons]
    exact (hfg _ _ hr).bind fun _ _ hs => ih.bind fun _ _ hss => .ok (.cons hs hss)

theorem refl (x : Except ε α) : Paired Eq x x := by
  cases x with
  | ok a => exact .ok rfl
  | error e => exact .error e e

theorem mapError {x : Except ε α} {y : Except ε β} (f : ε → ε') (hxy : Paired R x y) :
    Paired R (x.mapError f) (y.mapError f) := by
  cases hxy with
  | ok hr => exact .ok hr
  | error e e' => exact .error _ _

end Paired

namespace Program

/-- Two programs side by side, whose statements are related by `same` and whose results by `ended`. Rows are answered
    alike to both; a value, and what a change reports, may differ, and from then on (`apart`) one may fail alone. -/
inductive Abreast {α β : Type} (same : Statement → Statement → Prop) (ended : Bool → α → β → Prop) :
    Bool → Program α → Program β → Prop
  | done {apart : Bool} {a : α} {b : β} : ended apart a b → Abreast same ended apart (.done a) (.done b)
  | fail {apart : Bool} (f f' : Failure) : Abreast same ended apart (.fail f) (.fail f')
  | left (f : Failure) (p : Program β) : Abreast same ended true (.fail f) p
  | right (p : Program α) (f : Failure) : Abreast same ended true p (.fail f)
  | rows {apart : Bool} {st st' : Statement} {timeout : Value} {next : List Row → Program α}
    {next' : List Row → Program β} : same st st' → (∀ rows, Abreast same ended apart (next rows) (next' rows)) →
    Abreast same ended apart (.ask ⟨.rows, st, timeout⟩ next) (.ask ⟨.rows, st', timeout⟩ next')
  | value {apart : Bool} {st st' : Statement} {timeout : Value} {next : Value → Program α} {next' : Value → Program β} :
    same st st' → (∀ v v', Abreast same ended true (next v) (next' v')) →
    Abreast same ended apart (.ask ⟨.value, st, timeout⟩ next) (.ask ⟨.value, st', timeout⟩ next')
  | write {apart returning : Bool} {st st' : Statement} {timeout : Value} {next : WriteResult → Program α}
    {next' : WriteResult → Program β} : same st st' → (∀ r r', Abreast same ended true (next r) (next' r')) →
    Abreast same ended apart (.ask ⟨.write returning, st, timeout⟩ next) (.ask ⟨.write returning, st', timeout⟩ next')
  | draw {apart : Bool} {next : Value → Program α} {next' : Value → Program β} :
    (∀ key, Abreast same ended apart (next key) (next' key)) → Abreast same ended apart (.draw next) (.draw next')

section
variable {α α' β β' : Type} {same : Statement → Statement → Prop} {ended : Bool → α → β → Prop}
  {ended' : Bool → α' → β' → Prop} {apart : Bool}

theorem Abreast.mono {same' : Statement → Statement → Prop} {ended' : Bool → α → β → Prop}
    (hs : ∀ st st', same st st' → same' st st') (he : ∀ now a b, ended now a b → ended' now a b) {p : Program α}
    {p' : Program β} (hp : p.Abreast same ended apart p') : p.Abreast same' ended' apart p' := by
  induction hp with
  | done h => exact .done (he _ _ _ h)
  | fail f f' => exact .fail f f'
  | left f p => exact .left f p
  | right p f => exact .right p f
  | rows h _ ih => exact .rows (hs _ _ h) ih
  | value h _ ih => exact .value (hs _ _ h) ih
  | write h _ ih => exact .write (hs _ _ h) ih
  | draw _ ih => exact .draw ih

/-- What follows two programs may find them apart even if they started together, but not the other way round. -/
theorem Abreast.bind {p : Program α} {p' : Program β} {k : α → Program α'} {k' : β → Program β'}
    (hp : p.Abreast same ended apart p')
    (hk : ∀ apart' a b, (apart = true → apart' = true) → ended apart' a b →
      (k a).Abreast same ended' apart' (k' b)) :
    (p >>= k).Abreast same ended' apart (p' >>= k') := by
  induction hp with
  | done h => exact hk _ _ _ id h
  | fail f f' => exact .fail f f'
  | left f p => exact .left f _
  | right p f => exact .right _ f
  | rows h _ ih => exact .rows h fun rows => ih rows hk
  | value h _ ih => exact .value h fun v v' => ih v v' fun apart' a b hap => hk apart' a b fun _ => hap rfl
  | write h _ ih => exact .write h fun r r' => ih r r' fun apart' a b hap => hk apart' a b fun _ => hap rfl
  | draw _ ih => exact .draw fun key => ih key hk

theorem Abreast.void {p : Program α} {p' : Program β} (hp : p.Abreast same ended apart p') :
    p.void.Abreast same (fun _ _ _ => True) apart p'.void := hp.bind fun _ _ _ _ _ => .done trivial

theorem abreast_lift_bind {R : α → β → Prop} {x : Outcome α} {y : Outcome β} {k : α → Program α'}
    {k' : β → Program β'} (hxy : Paired R x y) (hk : ∀ a b, R a b → (k a).Abreast same ended' apart (k' b)) :
    (lift x >>= k).Abreast same ended' apart (lift y >>= k') := by
  cases hxy with
  | ok h => exact hk _ _ h
  | error f f' => exact .fail f f'

theorem abreast_fetchRows {st st' : Statement} (h : same st st') (timeout : Value) :
    (fetchRows st timeout).Abreast same (fun _ rows rows' => rows = rows') apart (fetchRows st' timeout) :=
  .rows h fun _ => .done rfl

theorem abreast_fetchValue {st st' : Statement} (h : same st st') (timeout : Value) :
    (fetchValue st timeout).Abreast same (fun now _ _ => now = true) apart (fetchValue st' timeout) :=
  .value h fun _ _ => .done rfl

theorem abreast_write {st st' : Statement} (h : same st st') (returning : Bool) (timeout : Value) :
    (write st returning timeout).Abreast same (fun now _ _ => now = true) apart (write st' returning timeout) :=
  .write h fun _ _ => .done rfl

/-- Computations on answers that differ. -/
theorem abreast_lift_apart {x : Outcome α} {y : Outcome β} (h : ∀ a b, ended true a b) :
    (lift x).Abreast same ended true (lift y) := by
  cases x with
  | ok a =>
    cases y with
    | ok b => exact .done (h a b)
    | error f => exact .right _ f
  | error f => exact .left f _

/-- A program that asks for nothing but rows keeps abreast of itself. -/
theorem abreast_self (hsame : ∀ st, same st st) :
    ∀ {p : Program α}, p.Always (fun r => r.kind = .rows) (fun _ => True) →
      p.Abreast same (fun _ a b => a = b) apart p
  | .done _, _ => .done rfl
  | .fail f, _ => .fail f f
  | .ask ⟨.rows, st, _⟩ _, h => .rows (hsame st) fun rows => abreast_self hsame (h.2 rows)
  | .draw _, h => .draw fun key => abreast_self hsame (h key)

end
end Program
end TableQuery
