import TableQuery.Proofs.Requests

/-! What a program asks in view of what it was answered before. `Along` is `Always` with the past at hand, for
    statements about later requests that depend on earlier answers. -/

namespace TableQuery

/-- A step of a run that reached outside of the program. -/
inductive Exchange
  | answered (r : Request) (answer : r.kind.Answer)
  | drawn (key : Value)

namespace Program

/-- Every request that the program can come to satisfies `asked` with what went before it, and every result
    `ended` with the whole run. -/
def Along {α : Type} (asked : List Exchange → Request → Prop) (ended : List Exchange → α → Prop) :
    Program α → List Exchange → Prop
  | .done a, past => ended past a
  | .fail _, _ => True
  | .ask r next, past => asked past r ∧ ∀ answer, (next answer).Along asked ended (past ++ [.answered r answer])
  | .draw next, past => ∀ key, (next key).Along asked ended (past ++ [.drawn key])

section
variable {α β : Type} {asked : List Exchange → Request → Prop} {past : List Exchange}

theorem Along.mono {ended ended' : List Exchange → α → Prop} (h : ∀ past a, ended past a → ended' past a) :
    ∀ {p : Program α} {past : List Exchange}, p.Along asked ended past → p.Along asked ended' past
  | .done a, past, hp => h past a hp
  | .fail _, _, _ => trivial
  | .ask _ _, _, hp => ⟨hp.1, fun answer => (hp.2 answer).mono h⟩
  | .draw _, _, hp => fun key => (hp key).mono h

theorem Along.mono_asked {asked' : List Exchange → Request → Prop} {ended : List Exchange → α → Prop}
    (h : ∀ past r, asked past r → asked' past r) :
    ∀ {p : Program α} {past : List Exchange}, p.Along asked ended past → p.Along asked' ended past
  | .done _, _, hp => hp
  | .fail _, _, _ => trivial
  | .ask r _, past, hp => ⟨h past r hp.1, fun answer => (hp.2 answer).mono_asked h⟩
  | .draw _, _, hp => fun key => (hp key).mono_asked h

theorem along_bind {ended : List Exchange → β → Prop} {k : α → Program β} :
    ∀ {p : Program α} {past : List Exchange},
      (p >>= k).Along asked ended past ↔ p.Along asked (fun past a => (k a).Along asked ended past) past
  | .done _, _ => Iff.rfl
  | .fail _, _ => Iff.rfl
  | .ask _ _, _ => and_congr_right fun _ => forall_congr' fun _ => along_bind
  | .draw _, _ => forall_congr' fun _ => along_bind

theorem along_lift {r : Outcome α} {ended : List Exchange → α → Prop} :
    (lift r).Along asked ended past ↔ ∀ a, r = .ok a → ended past a := by
  cases r with
  | ok a => simp [lift, Along]
  | error f => simp [lift, Along]

/-- What holds of every request at any time also holds with a past, which only grows. -/
theorem Always.along {asks : Request → Prop} {ends : α → Prop} (h : ∀ more r, asks r → asked (past ++ more) r) :
    ∀ {p : Program α} {more : List Exchange}, p.Always asks ends →
      p.Along asked (fun now a => past <+: now ∧ ends a) (past ++ more)
  | .done _, more, hp => ⟨List.prefix_append past more, hp⟩
  | .fail _, _, _ => trivial
  | .ask r _, more, hp => by
    refine ⟨h more r hp.1, fun answer => ?_⟩
    rw [List.append_assoc]
    exact (hp.2 answer).along h
  | .draw _, more, hp => by
    intro key
    rw [List.append_assoc]
    exact (hp key).along h

theorem Always.along_past {asks : Request → Prop} {ends : α → Prop} {p : Program α}
    (h : ∀ more r, asks r → asked (past ++ more) r) (hp : p.Always asks ends) :
    p.Along asked (fun now a => past <+: now ∧ ends a) past := by
  have hrun : p.Along asked (fun now a => past <+: now ∧ ends a) (past ++ []) := hp.along h
  rwa [List.append_nil] at hrun

/-- What is judged by a past and stays so as the past grows may be shown at one time. -/
theorem Always.along_of_append {p : Program α} (h : ∀ more r, asked past r → asked (past ++ more) r)
    (hp : p.Always (asked past) fun _ => True) : p.Along asked (fun _ _ => True) past :=
  (hp.along_past h).mono fun _ _ _ => trivial

theorem Along.and {asked' : List Exchange → Request → Prop} {ended ended' : List Exchange → α → Prop} :
    ∀ {p : Program α} {past : List Exchange}, p.Along asked ended past → p.Along asked' ended' past →
      p.Along (fun past r => asked past r ∧ asked' past r) (fun past a => ended past a ∧ ended' past a) past
  | .done _, _, h, h' => ⟨h, h'⟩
  | .fail _, _, _, _ => trivial
  | .ask _ _, _, h, h' => ⟨⟨h.1, h'.1⟩, fun answer => (h.2 answer).and (h'.2 answer)⟩
  | .draw _, _, h, h' => fun key => (h key).and (h' key)

/-- A program and what follows it. The past of what follows starts with the past of the program. -/
theorem Always.along_bind {ended : List Exchange → β → Prop} {asks : Request → Prop} {ends : α → Prop}
    {p : Program α} {k : α → Program β} (hp : p.Always asks ends)
    (h : ∀ more r, asks r → asked (past ++ more) r)
    (hk : ∀ now a, past <+: now → ends a → (k a).Along asked ended now) :
    (p >>= k).Along asked ended past :=
  Program.along_bind.mpr ((hp.along_past h).mono fun now a hend => hk now a hend.1 hend.2)

end
end Program
end TableQuery
