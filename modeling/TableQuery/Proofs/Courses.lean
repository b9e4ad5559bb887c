import TableQuery.Proofs.Histories
import TableQuery.Proofs.Outcomes

/-! The course of a program: `Along` that also follows the runs that fail. A failure is judged by what went before it,
    so that it can be said what a program has not done yet when it gives up. -/

namespace TableQuery
namespace Program

/-- Every request that the program can come to satisfies `asked` with what went before it, every failure of its own
    `failed`, and every result `ended`, both with the whole run. -/
def Course {α : Type} (asked : List Exchange → Request → Prop) (failed : List Exchange → Failure → Prop)
    (ended : List Exchange → α → Prop) : Program α → List Exchange → Prop
  | .done a, past => ended past a
  | .fail f, past => failed past f
  | .ask r next, past => asked past r ∧ ∀ answer, (next answer).Course asked failed ended (past ++ [.answered r answer])
  | .draw next, past => ∀ key, (next key).Course asked failed ended (past ++ [.drawn key])

/-- A run of a program: what it exchanges until it ends with a result. -/
inductive EndsAfter {α : Type} : Program α → List Exchange → α → Prop
  | done (a : α) : EndsAfter (.done a) [] a
  | ask {r : Request} {next : r.kind.Answer → Program α} (answer : r.kind.Answer) {run : List Exchange} {a : α} :
    EndsAfter (next answer) run a → EndsAfter (.ask r next) (.answered r answer :: run) a
  | draw {next : Value → Program α} (key : Value) {run : List Exchange} {a : α} :
    EndsAfter (next key) run a → EndsAfter (.draw next) (.drawn key :: run) a

section
variable {α β : Type} {asked : List Exchange → Request → Prop} {failed : List Exchange → Failure → Prop}
  {past : List Exchange}

theorem Course.mono {asked' : List Exchange → Request → Prop} {failed' : List Exchange → Failure → Prop}
    {ended ended' : List Exchange → α → Prop} (hr : ∀ past r, asked past r → asked' past r)
    (hf : ∀ past f, failed past f → failed' past f) (he : ∀ past a, ended past a → ended' past a) :
    ∀ {p : Program α} {past : List Exchange}, p.Course asked failed ended past → p.Course asked' failed' ended' past
  | .done a, past, h => he past a h
  | .fail f, past, h => hf past f h
  | .ask r _, past, h => ⟨hr past r h.1, fun answer => (h.2 answer).mono hr hf he⟩
  | .draw _, _, h => fun key => (h key).mono hr hf he

theorem course_bind {ended : List Exchange → β → Prop} {k : α → Program β} :
    ∀ {p : Program α} {past : List Exchange}, (p >>= k).Course asked failed ended past ↔
      p.Course asked failed (fun past a => (k a).Course asked failed ended past) past
  | .done _, _ => Iff.rfl
  | .fail _, _ => Iff.rfl
  | .ask _ _, _ => and_congr_right fun _ => forall_congr' fun _ => course_bind
  | .draw _, _ => forall_congr' fun _ => course_bind

/-- A program and what follows it. -/
theorem Course.bind {ended : List Exchange → β → Prop} {reached : List Exchange → α → Prop} {p : Program α}
    {k : α → Program β} (hp : p.Course asked failed reached past)
    (hk : ∀ past a, reached past a → (k a).Course asked failed ended past) : (p >>= k).Course asked failed ended past :=
  course_bind.mpr (hp.mono (fun _ _ h => h) (fun _ _ h => h) hk)

theorem course_lift_bind {ended : List Exchange → β → Prop} {r : Outcome α} {k : α → Program β}
    (hfail : FailsOnly (failed past) r) (hk : ∀ a, r = .ok a → (k a).Course asked failed ended past) :
    (lift r >>= k).Course asked failed ended past := by
  cases r with
  | ok a => exact hk a rfl
  | error f => exact hfail

theorem course_lift {ended : List Exchange → α → Prop} {r : Outcome α} (hfail : FailsOnly (failed past) r)
    (hk : ∀ a, r = .ok a → ended past a) : (lift r).Course asked failed ended past := by
  cases r with
  | ok a => exact hk a rfl
  | error f => exact hfail

theorem course_void {p : Program α} : p.void.Course asked failed (fun _ _ => True) past ↔
    p.Course asked failed (fun _ _ => True) past := course_bind

/-- Without its failures a course is what the program asks along its runs. -/
theorem Course.along {ended : List Exchange → α → Prop} :
    ∀ {p : Program α} {past : List Exchange}, p.Course asked failed ended past → p.Along asked ended past
  | .done _, _, h => h
  | .fail _, _, _ => trivial
  | .ask _ _, _, h => ⟨h.1, fun answer => (h.2 answer).along⟩
  | .draw _, _, h => fun key => (h key).along

/-- The past of a result is that of the program and a run of it. -/
theorem Course.endsAfter {ended : List Exchange → α → Prop} :
    ∀ {p : Program α} {past : List Exchange}, p.Course asked failed ended past →
      p.Course asked failed (fun now a => ended now a ∧ ∃ run, now = past ++ run ∧ p.EndsAfter run a) past
  | .done a, past, h => ⟨h, [], (List.append_nil past).symm, .done a⟩
  | .fail _, _, h => h
  | .ask r _, past, h => by
    refine ⟨h.1, fun answer => ?_⟩
    refine (h.2 answer).endsAfter.mono (fun _ _ h => h) (fun _ _ h => h) fun now a hend => ?_
    obtain ⟨hended, run, rfl, hrun⟩ := hend
    exact ⟨hended, .answered r answer :: run, List.append_assoc _ _ _, .ask answer hrun⟩
  | .draw _, past, h => by
    intro key
    refine (h key).endsAfter.mono (fun _ _ h => h) (fun _ _ h => h) fun now a hend => ?_
    obtain ⟨hended, run, rfl, hrun⟩ := hend
    exact ⟨hended, .drawn key :: run, List.append_assoc _ _ _, .draw key hrun⟩

/-- What is exchanged in a run of a program that asks nothing. -/
theorem EndsAfter.drawn {p : Program α} {run : List Exchange} {a : α} {ends : α → Prop} (h : p.EndsAfter run a)
    (hp : p.Always (fun _ => False) ends) : ∀ e ∈ run, ∃ key, e = .drawn key := by
  induction h with
  | done a => exact fun e he => nomatch he
  | ask answer _ ih => exact hp.1.elim
  | @draw next key run a _ ih =>
    intro e he
    rcases List.mem_cons.mp he with rfl | he
    · exact ⟨key, rfl⟩
    · exact ih (hp key) e he

end
end Program
end TableQuery
