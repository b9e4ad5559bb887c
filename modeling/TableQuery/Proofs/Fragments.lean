import TableQuery.Proofs.Reading

/-! Conditions that a caller writes in statement text. If such a text closes its quotes, nests its parentheses
    and has no comment in it, it has a reading; so it has without the blanks at its ends. -/

namespace TableQuery

/-- Text that closes its quotes and nests its parentheses, so that no part of it from the start closes more than
    it opened, and that has no comment in it. Nothing inside a quote counts. -/
structure Readable (d : Dialect) (s : String) : Prop where
  closed : openQuote none s.toList = none
  uncommented : ∀ front back, s.toList = front ++ back → openQuote none front = none →
    Lexeme.startsComment d back = false
  nested : ∀ front back, s.toList = front ++ back → countOutside ')' none front ≤ countOutside '(' none front
  balanced : countOutside ')' none s.toList = countOutside '(' none s.toList

theorem readable_iff {d : Dialect} {s : String} : Readable d s ↔ openQuote none s.toList = none ∧
    (∀ n < s.toList.length + 1, openQuote none (s.toList.take n) = none →
      Lexeme.startsComment d (s.toList.drop n) = false) ∧
    (∀ n < s.toList.length + 1, countOutside ')' none (s.toList.take n) ≤ countOutside '(' none (s.toList.take n)) ∧
    countOutside ')' none s.toList = countOutside '(' none s.toList := by
  have hparts : ∀ front back, s.toList = front ++ back → ∃ n < s.toList.length + 1,
      s.toList.take n = front ∧ s.toList.drop n = back := by
    intro front back h
    exact ⟨front.length, by rw [h, List.length_append]; omega, by simp [h], by simp [h]⟩
  constructor
  · rintro ⟨hclosed, huncommented, hnested, hbalanced⟩
    exact ⟨hclosed, fun n _ => huncommented _ _ (List.take_append_drop n _).symm,
      fun n _ => hnested _ _ (List.take_append_drop n _).symm, hbalanced⟩
  · rintro ⟨hclosed, huncommented, hnested, hbalanced⟩
    refine ⟨hclosed, fun front back h => ?_, fun front back h => ?_, hbalanced⟩
    · obtain ⟨n, hn, rfl, rfl⟩ := hparts front back h
      exact huncommented n hn
    · obtain ⟨n, hn, rfl, -⟩ := hparts front back h
      exact hnested n hn

instance (d : Dialect) (s : String) : Decidable (Readable d s) := decidable_of_iff _ readable_iff.symm

namespace Lexeme
variable {d : Dialect} {inside : Option Char} {n m : Nat} {c : Char} {cs : List Char} {ls : List Lexeme}

theorem exists_cut (hclosed : openQuote inside cs = none)
    (huncommented : ∀ front back, cs = front ++ back → openQuote inside front = none →
      startsComment d back = false) : ∃ ls, cut d inside cs = some ls := by
  induction cs generalizing inside with
  | nil =>
    obtain rfl : inside = none := hclosed
    exact ⟨[], rfl⟩
  | cons c cs ih =>
    obtain ⟨ls, hls⟩ : ∃ ls, cut d (quoteAfter inside c) cs = some ls :=
      ih hclosed fun front back heq hopen => huncommented (c :: front) back (by rw [heq, List.cons_append]) hopen
    cases inside with
    | none =>
      refine ⟨attach c ls, ?_⟩
      rw [cut, huncommented [] (c :: cs) rfl rfl, hls]
      rfl
    | some q =>
      refine ⟨.quoted c :: ls, ?_⟩
      rw [cut, hls]
      rfl

/-- How many parentheses are open after lexemes; none if more are closed than were opened. -/
def depth : Nat → List Lexeme → Option Nat
  | n, [] => some n
  | n, .opening :: ls => depth (n + 1) ls
  | 0, .closing :: _ => none
  | n + 1, .closing :: ls => depth n ls
  | n, _ :: ls => depth n ls

theorem depth_attach (hopening : c ≠ '(') (hclosing : c ≠ ')') : depth n (attach c ls) = depth n ls := by
  unfold attach
  split
  · rfl
  split
  · rfl
  split
  · split <;> rfl
  · rfl

/-- The parentheses of text are those of its lexemes. -/
theorem exists_depth (h : cut d inside cs = some ls)
    (hnested : ∀ front back, cs = front ++ back →
      countOutside ')' inside front ≤ n + countOutside '(' inside front) :
    ∃ m, depth n ls = some m ∧ m + countOutside ')' inside cs = n + countOutside '(' inside cs := by
  induction cs generalizing inside n ls with
  | nil =>
    cases inside with
    | none =>
      cases h
      exact ⟨n, rfl, rfl⟩
    | some q => cases h
  | cons c cs ih =>
    have hafter : ∀ front back, cs = front ++ back →
        countOutside ')' inside (c :: front) ≤ n + countOutside '(' inside (c :: front) :=
      fun front back heq => hnested (c :: front) back (by rw [heq, List.cons_append])
    cases inside with
    | some q =>
      rw [cut] at h
      obtain ⟨ls, hls, rfl⟩ := Option.map_eq_some_iff.mp h
      obtain ⟨m, hm, hcount⟩ := ih hls fun front back heq => by
        simpa [countOutside] using hafter front back heq
      exact ⟨m, hm, by simpa [countOutside] using hcount⟩
    | none =>
      rw [cut] at h
      split at h
      · cases h
      obtain ⟨ls, hls, rfl⟩ := Option.map_eq_some_iff.mp h
      by_cases hopening : c = '('
      · subst hopening
        have hquote : quoteAfter none '(' = none := rfl
        obtain ⟨m, hm, hcount⟩ := ih (n := n + 1) hls fun front back heq => by
          have := hafter front back heq
          simp only [countOutside, hquote] at this ⊢
          simp at this
          omega
        refine ⟨m, hm, ?_⟩
        simp only [countOutside, hquote] at hcount ⊢
        simp
        omega
      by_cases hclosing : c = ')'
      · subst hclosing
        have hquote : quoteAfter none ')' = none := rfl
        cases n with
        | zero =>
          have := hafter [] cs rfl
          simp [countOutside] at this
        | succ n =>
          obtain ⟨m, hm, hcount⟩ := ih (n := n) hls fun front back heq => by
            have := hafter front back heq
            simp only [countOutside, hquote] at this ⊢
            simp at this
            omega
          refine ⟨m, hm, ?_⟩
          simp only [countOutside, hquote] at hcount ⊢
          simp
          omega
      · obtain ⟨m, hm, hcount⟩ := ih (n := n) hls fun front back heq => by
          simpa [countOutside, hopening, hclosing] using hafter front back heq
        refine ⟨m, ?_, by simpa [countOutside, hopening, hclosing] using hcount⟩
        rw [depth_attach hopening hclosing, hm]

end Lexeme

theorem Element.exists_push {l : Lexeme} {ls : List Lexeme} {n m : Nat} {levels : List (List Element)}
    (h : Lexeme.depth n (l :: ls) = some m) (hlength : levels.length = n + 1) :
    ∃ n' next, push levels l = some next ∧ next.length = n' + 1 ∧ Lexeme.depth n' ls = some m := by
  cases levels with
  | nil => simp at hlength
  | cons level levels =>
    cases l with
    | opening => exact ⟨n + 1, _, rfl, by simpa using hlength, h⟩
    | closing =>
      cases n with
      | zero => cases h
      | succ n =>
        cases levels with
        | nil => simp at hlength
        | cons outer levels => exact ⟨n, _, rfl, by simpa using hlength, h⟩
    | _ => exact ⟨n, _, rfl, by simpa using hlength, by simpa [Lexeme.depth] using h⟩

theorem Element.exists_foldlM_push : ∀ {ls : List Lexeme} {n m : Nat} {levels : List (List Element)},
    Lexeme.depth n ls = some m → levels.length = n + 1 →
      ∃ levels', ls.foldlM push levels = some levels' ∧ levels'.length = m + 1
  | [], n, m, levels, h, hlength => by
    cases h
    exact ⟨levels, rfl, hlength⟩
  | l :: ls, n, m, levels, h, hlength => by
    obtain ⟨n', next, hpush, hnext, hdepth⟩ := exists_push h hlength
    obtain ⟨levels', hrest, hlength'⟩ := exists_foldlM_push hdepth hnext
    refine ⟨levels', ?_, hlength'⟩
    rw [List.foldlM_cons, hpush]
    exact hrest

namespace Readable
variable {d : Dialect} {s : String}

theorem exists_reading (h : Readable d s) : ∃ r, Reading.ofText? d s = some r := by
  obtain ⟨ls, hls⟩ := Lexeme.exists_cut h.closed h.uncommented
  obtain ⟨m, hm, hcount⟩ := Lexeme.exists_depth (n := 0) hls fun front back heq => by
    simpa using h.nested front back heq
  obtain rfl : m = 0 := by
    have := h.balanced
    omega
  obtain ⟨levels, hlevels, hlength⟩ : ∃ levels, ls.foldlM Element.push [[]] = some levels ∧ levels.length = 0 + 1 :=
    Element.exists_foldlM_push hm rfl
  obtain ⟨es, rfl⟩ := List.length_eq_one_iff.mp hlength
  refine ⟨Element.read es, ?_⟩
  simp [Reading.ofText?, Element.ofText?, Element.nest, hls, hlevels]

/-- The blanks at the ends do not matter. -/
theorem trimText (h : Readable d s) : Readable d (trimText s) := by
  obtain ⟨before, after, heq, hbefore, hafter⟩ := trim_eq s.toList
  have hopen : openQuote none before = none := openQuote_blanks (by simp) hbefore
  have hsplit : ∀ front back, trim s.toList = front ++ back → s.toList = (before ++ front) ++ (back ++ after) := by
    intro front back h
    rw [heq, h]
    simp only [List.append_assoc]
  have hquote : ∀ q, openQuote none (trim s.toList) = some q → isQuoteMark q = true :=
    fun q hq => isQuoteMark_of_openQuote (by simp) hq
  have hcount : ∀ x, isBlank x = false → ∀ front,
      countOutside x none (before ++ front) = countOutside x none front := by
    intro x hx front
    rw [countOutside_append, countOutside_blanks hx hbefore, hopen, Nat.zero_add]
  refine ⟨?_, fun front back h' hclosed => ?_, fun front back h' => ?_, ?_⟩
  · have := h.closed
    rw [heq, List.append_assoc, openQuote_append, hopen, openQuote_append, openQuote_blanks hquote hafter] at this
    rw [toList_trimText]
    exact this
  · rw [toList_trimText] at h'
    exact Lexeme.startsComment_of_append
      (h.uncommented _ _ (hsplit front back h') (by rw [openQuote_append, hopen, hclosed]))
  · rw [toList_trimText] at h'
    have := h.nested _ _ (hsplit front back h')
    rwa [hcount ')' rfl, hcount '(' rfl] at this
  · have hwhole : ∀ x, isBlank x = false → countOutside x none s.toList = countOutside x none (trim s.toList) := by
      intro x hx
      have := congrArg (countOutside x none) heq
      rwa [countOutside_append, hcount x hx, countOutside_blanks hx hafter, Nat.add_zero] at this
    have := h.balanced
    rwa [hwhole ')' rfl, hwhole '(' rfl, ← toList_trimText] at this

end Readable
end TableQuery
