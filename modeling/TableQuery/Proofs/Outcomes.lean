import Mathlib.Data.List.Forall2
import TableQuery.Failure

/-! Computations that can fail, read backwards: what holds when they end with a result, and by what they fail. -/

namespace TableQuery

section
variable {α β : Type} {R : α → β → Prop}

theorem forall₂_mem_right {xs : List α} {ys : List β} (h : List.Forall₂ R xs ys) :
    ∀ y ∈ ys, ∃ x ∈ xs, R x y := by
  induction h with
  | nil => exact fun y hy => nomatch hy
  | cons hr _ ih =>
    intro y hy
    rcases List.mem_cons.mp hy with rfl | hy
    · exact ⟨_, List.mem_cons_self, hr⟩
    · obtain ⟨x, hx, hr⟩ := ih y hy
      exact ⟨x, List.mem_cons_of_mem _ hx, hr⟩

theorem exists_of_map_eq {γ : Type} {f : α → γ} {g : β → γ} {xs : List α} {ys : List β}
    (h : List.Forall₂ R xs ys) (hmap : ys.map g = xs.map f) : ∀ x ∈ xs, ∃ y, R x y ∧ g y = f x := by
  induction h with
  | nil => exact fun x hx => nomatch hx
  | cons hr _ ih =>
    obtain ⟨hhead, htail⟩ := List.cons.inj hmap
    exact List.forall_mem_cons.mpr ⟨⟨_, hr, hhead⟩, ih htail⟩

theorem map_eq_of_forall₂ {γ : Type} {f : α → γ} {g : β → γ} {xs : List α} {ys : List β} (h : List.Forall₂ R xs ys)
    (hfg : ∀ x y, R x y → f x = g y) : xs.map f = ys.map g := by
  induction h with
  | nil => rfl
  | cons hr _ ih => rw [List.map_cons, List.map_cons, hfg _ _ hr, ih]

theorem forall₂_append_left {xs xs' : List α} : ∀ {ys : List β}, List.Forall₂ R (xs ++ xs') ys →
    ∃ zs zs', ys = zs ++ zs' ∧ List.Forall₂ R xs zs ∧ List.Forall₂ R xs' zs' := by
  induction xs with
  | nil => exact fun {ys} h => ⟨[], ys, rfl, .nil, h⟩
  | cons x xs ih =>
    intro ys h
    cases h with
    | cons hr hrest =>
      obtain ⟨zs, zs', rfl, h₁, h₂⟩ := ih hrest
      exact ⟨_ :: zs, zs', rfl, .cons hr h₁, h₂⟩

end

section
variable {ε ε' α β : Type}

theorem bind_eq_ok {x : Except ε α} {f : α → Except ε β} {b : β} :
    (x >>= f) = .ok b ↔ ∃ a, x = .ok a ∧ f a = .ok b := by
  cases x with
  | ok a => exact ⟨fun h => ⟨a, rfl, h⟩, fun ⟨_, ha, h⟩ => by cases ha; exact h⟩
  | error e => exact ⟨fun h => (nomatch h), fun ⟨_, ha, _⟩ => (nomatch ha)⟩

theorem bind_eq_error {x : Except ε α} {f : α → Except ε β} {e : ε} :
    (x >>= f) = .error e ↔ x = .error e ∨ ∃ a, x = .ok a ∧ f a = .error e := by
  cases x with
  | ok a =>
    constructor
    · exact fun h => .inr ⟨a, rfl, h⟩
    · rintro (h | ⟨_, ha, h⟩)
      · cases h
      · cases ha
        exact h
  | error e' =>
    constructor
    · intro h
      cases h
      exact .inl rfl
    · rintro (h | ⟨_, ha, _⟩)
      · cases h
        rfl
      · cases ha

theorem mapError_eq_ok {x : Except ε α} {f : ε → ε'} {a : α} : x.mapError f = .ok a ↔ x = .ok a := by
  cases x with
  | ok b => exact ⟨fun h => by cases h; rfl, fun h => by cases h; rfl⟩
  | error e => exact ⟨fun h => (nomatch h), fun h => (nomatch h)⟩

theorem map_eq_ok {x : Except ε α} {f : α → β} {b : β} : x.map f = .ok b ↔ ∃ a, x = .ok a ∧ f a = b := by
  cases x with
  | ok a => exact ⟨fun h => ⟨a, rfl, Except.ok.inj h⟩, fun ⟨_, ha, h⟩ => by cases ha; exact congrArg Except.ok h⟩
  | error e => exact ⟨fun h => (nomatch h), fun ⟨_, ha, _⟩ => (nomatch ha)⟩

/-- Mapping over a list ends with a result if each item does, and then with the list of those. -/
theorem mapM_eq_ok {f : α → Except ε β} : ∀ {xs : List α} {ys : List β},
    xs.mapM f = .ok ys ↔ List.Forall₂ (fun x y => f x = .ok y) xs ys
  | [], ys => by
    rw [List.mapM_nil]
    constructor
    · intro h
      cases h
      exact .nil
    · intro h
      cases h
      rfl
  | x :: xs, ys => by
    rw [List.mapM_cons, bind_eq_ok]
    constructor
    · rintro ⟨y, hy, h⟩
      obtain ⟨ys', hys, h⟩ := bind_eq_ok.mp h
      cases h
      exact .cons hy (mapM_eq_ok.mp hys)
    · intro h
      cases h with
      | cons hy hys => exact ⟨_, hy, bind_eq_ok.mpr ⟨_, mapM_eq_ok.mpr hys, rfl⟩⟩

theorem exists_mapM_eq_ok {f : α → Except ε β} : ∀ {xs : List α}, (∀ x ∈ xs, ∃ y, f x = .ok y) →
    ∃ ys, xs.mapM f = .ok ys
  | [], _ => ⟨[], rfl⟩
  | x :: xs, h => by
    obtain ⟨hx, hxs⟩ := List.forall_mem_cons.mp h
    obtain ⟨y, hy⟩ := hx
    obtain ⟨ys, hys⟩ := exists_mapM_eq_ok hxs
    exact ⟨y :: ys, mapM_eq_ok.mpr (.cons hy (mapM_eq_ok.mp hys))⟩

theorem mapM_eq_ok_map {f : α → Except ε β} {h : α → β} {xs : List α} (hf : ∀ x ∈ xs, f x = .ok (h x)) :
    xs.mapM f = .ok (xs.map h) := by
  rw [mapM_eq_ok, List.forall₂_map_right_iff]
  exact List.forall₂_same.mpr hf

theorem mapM_map_eq_ok_map {γ : Type} {f : β → Except ε α} {g : γ → β} {h : γ → α} {xs : List γ}
    (hf : ∀ x ∈ xs, f (g x) = .ok (h x)) : (xs.map g).mapM f = .ok (xs.map h) := by
  rw [mapM_eq_ok, List.forall₂_map_left_iff, List.forall₂_map_right_iff]
  exact List.forall₂_same.mpr hf

/-- What reads back each item reads back the list of them. -/
theorem mapM_map_eq_ok {f : β → Except ε α} {g : α → β} {xs : List α} (h : ∀ x ∈ xs, f (g x) = .ok x) :
    (xs.map g).mapM f = .ok xs := by
  rw [mapM_map_eq_ok_map h, List.map_id']

/-- If mapping over a list fails, then at one of its items. -/
theorem mapM_eq_error {f : α → Except ε β} {e : ε} : ∀ {xs : List α}, xs.mapM f = .error e → ∃ x ∈ xs, f x = .error e
  | [], h => by
    rw [List.mapM_nil] at h
    cases h
  | x :: xs, h => by
    rw [List.mapM_cons] at h
    cases hx : f x with
    | error e' =>
      rw [hx] at h
      cases h
      exact ⟨x, List.mem_cons_self, hx⟩
    | ok y =>
      cases hxs : xs.mapM f with
      | error e' =>
        rw [hx, hxs] at h
        cases h
        obtain ⟨x', hmem, hx'⟩ := mapM_eq_error hxs
        exact ⟨x', List.mem_cons_of_mem x hmem, hx'⟩
      | ok ys =>
        rw [hx, hxs] at h
        cases h

/-- Checking a list item by item passes if each item does. -/
theorem forM_eq_ok {f : α → Except ε Unit} : ∀ {xs : List α}, xs.forM f = .ok () ↔ ∀ x ∈ xs, f x = .ok ()
  | [] => ⟨fun _ x hx => (nomatch hx), fun _ => rfl⟩
  | x :: xs => by
    have hcons : (x :: xs).forM f = f x >>= fun _ => xs.forM f := rfl
    rw [hcons, bind_eq_ok, List.forall_mem_cons]
    constructor
    · rintro ⟨_, hx, hxs⟩
      exact ⟨hx, forM_eq_ok.mp hxs⟩
    · rintro ⟨hx, hxs⟩
      exact ⟨(), hx, forM_eq_ok.mpr hxs⟩

/-- Checking a list stops at the first item that does not pass. -/
theorem forM_eq_error {f : α → Except ε Unit} {e : ε} : ∀ {xs : List α}, xs.forM f = .error e ↔
    ∃ before x after, xs = before ++ x :: after ∧ (∀ y ∈ before, f y = .ok ()) ∧ f x = .error e
  | [] => ⟨fun h => (nomatch h), fun ⟨before, _, _, h, _⟩ => by cases before <;> cases h⟩
  | x :: xs => by
    have hcons : (x :: xs).forM f = f x >>= fun _ => xs.forM f := rfl
    rw [hcons, bind_eq_error]
    constructor
    · rintro (hx | ⟨_, hx, hxs⟩)
      · exact ⟨[], x, xs, rfl, fun y hy => (nomatch hy), hx⟩
      · obtain ⟨before, y, after, rfl, hbefore, hy⟩ := forM_eq_error.mp hxs
        exact ⟨x :: before, y, after, rfl, List.forall_mem_cons.mpr ⟨hx, hbefore⟩, hy⟩
    · rintro ⟨before, y, after, h, hbefore, hy⟩
      cases before with
      | nil =>
        cases h
        exact .inl hy
      | cons z before =>
        cases h
        obtain ⟨hx, hbefore⟩ := List.forall_mem_cons.mp hbefore
        exact .inr ⟨(), hx, forM_eq_error.mpr ⟨before, y, after, rfl, hbefore, hy⟩⟩

/-- What holds at the start of a fold and is kept by its steps holds of its result. -/
theorem of_foldlM_eq_ok {f : β → α → Except ε β} {I : β → Prop} (hstep : ∀ b a b', I b → f b a = .ok b' → I b') :
    ∀ {xs : List α} {b c : β}, I b → xs.foldlM f b = .ok c → I c
  | [], _, _, hb, h => by
    cases h
    exact hb
  | a :: xs, b, c, hb, h => by
    rw [List.foldlM_cons] at h
    obtain ⟨b', ha, h⟩ := bind_eq_ok.mp h
    exact of_foldlM_eq_ok hstep (hstep b a b' hb ha) h

/-- It also holds in front of each step, if the fold ends with a result. -/
theorem forall_of_foldlM_eq_ok {f : β → α → Except ε β} {I : β → Prop} (hstep : ∀ b a b', I b → f b a = .ok b' → I b') :
    ∀ {xs : List α} {b c : β}, I b → xs.foldlM f b = .ok c → ∀ x ∈ xs, ∃ d e, I d ∧ f d x = .ok e
  | [], _, _, _, _ => fun x hx => (nomatch hx)
  | a :: xs, b, c, hb, h => by
    rw [List.foldlM_cons] at h
    obtain ⟨b', ha, h⟩ := bind_eq_ok.mp h
    refine List.forall_mem_cons.mpr ⟨⟨b, b', hb, ha⟩, ?_⟩
    exact forall_of_foldlM_eq_ok hstep (hstep b a b' hb ha) h

/-- If a fold fails, then at a step that comes after steps that did not. -/
theorem exists_of_foldlM_eq_error {f : β → α → Except ε β} {e : ε} : ∀ {xs : List α} {b : β},
    xs.foldlM f b = .error e → ∃ before x after c, xs = before ++ x :: after ∧ before.foldlM f b = .ok c ∧
      f c x = .error e
  | [], _, h => nomatch h
  | a :: xs, b, h => by
    rw [List.foldlM_cons] at h
    rcases bind_eq_error.mp h with h | ⟨c, hc, h⟩
    · exact ⟨[], a, xs, b, rfl, rfl, h⟩
    · obtain ⟨before, x, after, d, rfl, hbefore, hx⟩ := exists_of_foldlM_eq_error h
      exact ⟨a :: before, x, after, d, rfl, by rw [List.foldlM_cons, hc]; exact hbefore, hx⟩

/-- If a computation fails, then only in a way that satisfies `P`. -/
def FailsOnly (P : ε → Prop) : Except ε α → Prop
  | .ok _ => True
  | .error e => P e

namespace FailsOnly
variable {P : ε → Prop} {x : Except ε α}

theorem mono {Q : ε → Prop} (h : ∀ e, P e → Q e) (hx : FailsOnly P x) : FailsOnly Q x := by
  cases x with
  | ok a => exact trivial
  | error e => exact h e hx

theorem bind {k : α → Except ε β} (hx : FailsOnly P x) (hk : ∀ a, x = .ok a → FailsOnly P (k a)) :
    FailsOnly P (x >>= k) := by
  cases x with
  | ok a => exact hk a rfl
  | error e => exact hx

theorem map {f : α → β} (hx : FailsOnly P x) : FailsOnly P (x.map f) := by
  cases x with
  | ok a => exact trivial
  | error e => exact hx

theorem mapM {f : α → Except ε β} : ∀ {xs : List α}, (∀ a ∈ xs, FailsOnly P (f a)) → FailsOnly P (xs.mapM f)
  | [], _ => by
    rw [List.mapM_nil]
    exact trivial
  | a :: xs, h => by
    rw [List.mapM_cons]
    exact (h a List.mem_cons_self).bind fun _ _ =>
      (mapM fun b hb => h b (List.mem_cons_of_mem a hb)).bind fun _ _ => trivial

theorem forM {f : α → Except ε Unit} : ∀ {xs : List α}, (∀ a ∈ xs, FailsOnly P (f a)) → FailsOnly P (xs.forM f)
  | [], _ => trivial
  | a :: _, h => (h a List.mem_cons_self).bind fun _ _ => forM fun b hb => h b (List.mem_cons_of_mem a hb)

end FailsOnly

/-- A computation fails if anything is wrong, and then in a way that is. -/
inductive FailsBy (wrong : ε → Prop) : Except ε α → Prop
  | ok {a : α} : (∀ e, ¬ wrong e) → FailsBy wrong (.ok a)
  | error {e : ε} : wrong e → FailsBy wrong (.error e)

namespace FailsBy
variable {wrong : ε → Prop} {x : Except ε α}

theorem of_cases (herror : ∀ e, x = .error e → wrong e) (hok : ∀ a, x = .ok a → ∀ e, ¬ wrong e) : FailsBy wrong x := by
  cases x with
  | ok a => exact .ok (hok a rfl)
  | error e => exact .error (herror e rfl)

theorem of_failsOnly (hfails : FailsOnly wrong x) (hok : ∀ a, x = .ok a → ∀ e, ¬ wrong e) : FailsBy wrong x := by
  refine of_cases (fun e he => ?_) hok
  rw [he] at hfails
  exact hfails

theorem failsOnly (h : FailsBy wrong x) : FailsOnly wrong x := by
  cases h with
  | ok _ => exact trivial
  | error he => exact he

theorem of_eq_error {e : ε} (h : FailsBy wrong x) (hx : x = .error e) : wrong e := by
  cases h with
  | ok _ => cases hx
  | error he =>
    cases hx
    exact he

theorem not_of_eq_ok {a : α} {e : ε} (h : FailsBy wrong x) (hx : x = .ok a) : ¬ wrong e := by
  cases h with
  | ok hno => exact hno e
  | error _ => cases hx

theorem congr {wrong' : ε → Prop} (h : FailsBy wrong x) (hiff : ∀ e, wrong e ↔ wrong' e) : FailsBy wrong' x := by
  cases h with
  | ok hno => exact .ok fun e he => hno e ((hiff e).mpr he)
  | error he => exact .error ((hiff _).mp he)

/-- If mapping over a list ends with a result, then nothing is wrong with any item. -/
theorem not_of_mapM {wrong : α → ε → Prop} {f : α → Except ε β} {xs : List α} {ys : List β} {a : α} {e : ε}
    (hf : ∀ a, FailsBy (wrong a) (f a)) (h : xs.mapM f = .ok ys) (ha : a ∈ xs) : ¬ wrong a e := by
  obtain ⟨b, -, hb⟩ := forall₂_mem_right (mapM_eq_ok.mp h).flip a ha
  exact (hf a).not_of_eq_ok hb

end FailsBy

end
end TableQuery
