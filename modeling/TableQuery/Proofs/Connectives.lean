import TableQuery.Proofs.Reading
import TableQuery.Query.Operator

/-! Connectives between texts. Text that reads as conditions with `AND` between them keeps doing so when more is
    put behind it with an `AND`; with an `OR` it becomes one of several alternatives; and in parentheses it is a
    single condition, whatever it reads as inside. -/

namespace TableQuery
namespace Element
variable {e : Element} {es fs : List Element} {n : Nat}

/-! ### Ranges -/

/-- How many ranges have no `AND` yet after some elements. -/
def owedAfter : Nat → List Element → Nat
  | owed, [] => owed
  | owed, e :: es =>
    owedAfter (if e.isWord "BETWEEN" then owed + 1 else if e.isWord "AND" then owed - 1 else owed) es

theorem bindRanges_append : bindRanges n (es ++ fs) = bindRanges n es ++ bindRanges (owedAfter n es) fs := by
  induction es generalizing n with
  | nil => rfl
  | cons e es ih =>
    rw [List.cons_append, bindRanges, bindRanges, owedAfter, ih, ih, ih]
    by_cases hbetween : e.isWord "BETWEEN" = true
    · simp [hbetween]
    · by_cases hand : e.isWord "AND" = true
      · cases n with
        | zero => simp [hbetween, hand]
        | succ n => simp [hbetween, hand]
      · simp [hbetween, hand]

theorem owedAfter_append : owedAfter n (es ++ fs) = owedAfter (owedAfter n es) fs := by
  induction es generalizing n with
  | nil => rfl
  | cons e es ih => exact ih

theorem text_bindRanges : (bindRanges n es).flatMap text = es.flatMap text := by
  induction es generalizing n with
  | nil => rfl
  | cons e es ih =>
    rw [bindRanges]
    split
    · rw [List.flatMap_cons, List.flatMap_cons, ih]
    split
    · rw [List.flatMap_cons, List.flatMap_cons, ih]
      rfl
    · rw [List.flatMap_cons, List.flatMap_cons, ih]

/-! ### Blanks at the ends -/

/-- The conditions between the `AND`s. -/
def units (es : List Element) : List Reading := (es.splitOnP (isWord "AND")).map unit

theorem isWord_of_isBlank (h : e.isBlank = true) (keyword : String) : e.isWord keyword = false := by
  cases e with
  | lexeme l =>
    cases l with
    | blank c => rfl
    | _ => cases h
  | _ => cases h

theorem unit_cons_blank (h : e.isBlank = true) : unit (e :: es) = unit es := by
  unfold unit
  rw [List.dropWhile_cons_of_pos h]

theorem unit_concat_blank (h : e.isBlank = true) : unit (es ++ [e]) = unit es := by
  have htrim : ((es ++ [e]).dropWhile isBlank).rdropWhile isBlank = (es.dropWhile isBlank).rdropWhile isBlank := by
    rw [List.dropWhile_append]
    split
    · rename_i hall
      rw [List.dropWhile_cons_of_pos h, List.isEmpty_iff.mp hall, List.dropWhile_nil]
    · rw [List.rdropWhile_concat_pos _ _ _ h]
  unfold unit
  rw [htrim]

theorem units_cons_blank (h : e.isBlank = true) : units (e :: es) = units es := by
  unfold units
  rw [List.splitOnP_cons_eq_if_modifyHead, isWord_of_isBlank h]
  cases hs : es.splitOnP (isWord "AND") with
  | nil => rfl
  | cons piece pieces =>
    show unit (e :: piece) :: _ = _
    rw [unit_cons_blank h]
    rfl

/-- An element at the end that does not split goes to the last piece. -/
theorem splitOnP_concat {p : Element → Bool} (es : List Element) (h : p e = false) : ∃ init last,
    es.splitOnP p = init ++ [last] ∧ (es ++ [e]).splitOnP p = init ++ [last ++ [e]] := by
  induction es with
  | nil => exact ⟨[], [], rfl, by simp [List.splitOnP_cons_eq_if_modifyHead, h]⟩
  | cons x es ih =>
    obtain ⟨init, last, heq, hconcat⟩ := ih
    rw [List.cons_append, List.splitOnP_cons_eq_if_modifyHead, List.splitOnP_cons_eq_if_modifyHead, heq, hconcat]
    by_cases hx : p x = true
    · exact ⟨[] :: init, last, by simp [hx], by simp [hx]⟩
    · cases init with
      | nil => exact ⟨[], x :: last, by simp [hx], by simp [hx]⟩
      | cons piece init => exact ⟨(x :: piece) :: init, last, by simp [hx], by simp [hx]⟩

theorem units_concat_blank (h : e.isBlank = true) : units (es ++ [e]) = units es := by
  obtain ⟨init, last, heq, hconcat⟩ := splitOnP_concat es (isWord_of_isBlank h "AND")
  unfold units
  rw [heq, hconcat, List.map_append, List.map_append, List.map_singleton, List.map_singleton, unit_concat_blank h]

theorem conjunction_cons_blank (h : e.isBlank = true) : conjunction (e :: es) = conjunction es :=
  congrArg Reading.conj (units_cons_blank h)

theorem conjunction_concat_blank (h : e.isBlank = true) : conjunction (es ++ [e]) = conjunction es :=
  congrArg Reading.conj (units_concat_blank h)

theorem units_append_and (h : e.isWord "AND" = true) : units (es ++ e :: fs) = units es ++ units fs := by
  unfold units
  rw [List.splitOnP_append_cons _ _ h, List.map_append]

/-! ### Connectives -/

def blank : Element := .lexeme (.blank ' ')

def keyword (c : Connective) : Element := .lexeme (.word c.spelling.toList)

theorem ofText?_connective {d : Dialect} (c : Connective) :
    ofText? d (" " ++ c.spelling ++ " ") = some [blank, keyword c, blank] := by
  cases c <;> rfl

theorem bindRanges_connective (h : owedAfter 0 es = 0) (c : Connective) :
    bindRanges 0 (es ++ [blank, keyword c, blank] ++ fs) =
      (bindRanges 0 es ++ [blank]) ++ keyword c :: (blank :: bindRanges 0 fs) := by
  rw [List.append_assoc, bindRanges_append, h, List.append_assoc]
  cases c <;> rfl

theorem owedAfter_connective (h : owedAfter 0 es = 0) (c : Connective) :
    owedAfter 0 (es ++ [blank, keyword c, blank] ++ fs) = owedAfter 0 fs := by
  rw [List.append_assoc, owedAfter_append, h]
  cases c <;> rfl

end Element

open Element

/-- Text that reads as conditions with `AND` between them. -/
def Conjoined (d : Dialect) (s : String) (rs : List Reading) : Prop := ∃ es,
  Element.ofText? d s = some es ∧ es.all Element.isBlank = false ∧ owedAfter 0 es = 0 ∧
    (∀ e ∈ bindRanges 0 es, e.isWord "OR" = false) ∧ units (bindRanges 0 es) = rs

/-- Text that reads as alternatives with `OR` between them. -/
def Alternatives (d : Dialect) (s : String) (rs : List Reading) : Prop := ∃ es,
  Element.ofText? d s = some es ∧ es.all Element.isBlank = false ∧ owedAfter 0 es = 0 ∧
    ((bindRanges 0 es).splitOnP (isWord "OR")).map conjunction = rs

section
variable {d : Dialect} {s t : String} {es : List Element} {rs rs' : List Reading} {r : Reading}

theorem ofText?_connect {fs : List Element} (hs : Element.ofText? d s = some es) (ht : Element.ofText? d t = some fs)
    (c : Connective) : Element.ofText? d (s ++ (" " ++ c.spelling ++ " ") ++ t) =
      some (es ++ [blank, keyword c, blank] ++ fs) := by
  have hright : Separate s (" " ++ c.spelling ++ " ") := by
    cases c <;> exact separate_of_right rfl
  have hleft : Separate (s ++ (" " ++ c.spelling ++ " ")) t := by
    have htext : (s ++ (" " ++ c.spelling ++ " ")).toList = (s.toList ++ (" " ++ c.spelling).toList) ++ [' '] := by
      rw [String.toList_append, String.toList_append, List.append_assoc]
      rfl
    refine separate_of_left ?_
    rw [htext, List.getLast?_concat]
    rfl
  exact ofText?_append (ofText?_append hs (ofText?_connective c) hright) ht hleft

theorem Conjoined.and (hs : Conjoined d s rs) (ht : Conjoined d t rs') : Conjoined d (s ++ " AND " ++ t) (rs ++ rs') := by
  obtain ⟨es, hes, hfull, howed, hor, rfl⟩ := hs
  obtain ⟨fs, hfs, -, howed', hor', rfl⟩ := ht
  refine ⟨_, ofText?_connect hes hfs .and, ?_, ?_, ?_, ?_⟩
  · rw [List.append_assoc, List.all_append, hfull, Bool.false_and]
  · rw [owedAfter_connective howed, howed']
  · rw [bindRanges_connective howed]
    intro e he
    simp only [List.mem_append, List.mem_cons, List.not_mem_nil, or_false] at he
    rcases he with (he | rfl) | rfl | rfl | he
    · exact hor e he
    · rfl
    · rfl
    · rfl
    · exact hor' e he
  · rw [bindRanges_connective howed, units_append_and rfl, units_concat_blank rfl, units_cons_blank rfl]

theorem Conjoined.alternatives (h : Conjoined d s rs) : Alternatives d s [.conj rs] := by
  obtain ⟨es, hes, hfull, howed, hor, rfl⟩ := h
  refine ⟨es, hes, hfull, howed, ?_⟩
  rw [List.splitOnP_eq_singleton hor]
  rfl

theorem Alternatives.or (hs : Conjoined d s rs) (ht : Alternatives d t rs') :
    Alternatives d (s ++ " OR " ++ t) (.conj rs :: rs') := by
  obtain ⟨es, hes, hfull, howed, hor, rfl⟩ := hs
  obtain ⟨fs, hfs, -, howed', rfl⟩ := ht
  refine ⟨_, ofText?_connect hes hfs .or, ?_, ?_, ?_⟩
  · rw [List.append_assoc, List.all_append, hfull, Bool.false_and]
  · rw [owedAfter_connective howed, howed']
  · have hor' : ∀ e ∈ bindRanges 0 es ++ [blank], e.isWord "OR" = false := by
      intro e he
      rcases List.mem_append.mp he with he | he
      · exact hor e he
      · rw [List.mem_singleton.mp he]
        rfl
    rw [bindRanges_connective howed, List.splitOnP_append_cons _ _ rfl, List.splitOnP_eq_singleton hor',
      List.splitOnP_cons_eq_if_modifyHead, List.map_append, List.map_singleton, conjunction_concat_blank rfl]
    cases (bindRanges 0 fs).splitOnP (isWord "OR") with
    | nil => rfl
    | cons piece pieces =>
      show _ ++ conjunction (blank :: piece) :: _ = _
      rw [conjunction_cons_blank rfl]
      rfl

theorem Alternatives.ofText? (h : Alternatives d s rs) : Reading.ofText? d s = some (.disj rs) := by
  obtain ⟨es, hes, hfull, -, rfl⟩ := h
  rw [Reading.ofText?, hes, Option.map_some, Element.read, hfull]
  rfl

theorem Conjoined.ofText? (h : Conjoined d s rs) : Reading.ofText? d s = some (.conj rs) := h.alternatives.ofText?

/-- Whatever text reads as, in parentheses it is a single condition. -/
theorem Conjoined.parens (h : Reading.ofText? d s = some r) : Conjoined d ("(" ++ s ++ ")") [.parens r] := by
  obtain ⟨es, hes, rfl⟩ := Option.map_eq_some_iff.mp h
  exact ⟨_, ofText?_parens hes, rfl, rfl, by simp [bindRanges, isWord], rfl⟩

/-- Several texts with `AND` between them. -/
theorem Conjoined.joinWith {α : Type} {f : α → String} {g : α → List Reading} :
    ∀ {xs : List α}, xs ≠ [] → (∀ x ∈ xs, Conjoined d (f x) (g x)) →
      Conjoined d (TableQuery.joinWith " AND " (xs.map f)) (xs.flatMap g)
  | [], hne, _ => absurd rfl hne
  | [x], _, h => by simpa using h x List.mem_cons_self
  | x :: y :: xs, _, h => by
    have hrest : Conjoined d (TableQuery.joinWith " AND " ((y :: xs).map f)) ((y :: xs).flatMap g) :=
      Conjoined.joinWith (List.cons_ne_nil y xs) fun z hz => h z (List.mem_cons_of_mem x hz)
    exact (h x List.mem_cons_self).and hrest

/-- Several texts with `OR` between them. -/
theorem Alternatives.joinWith {α : Type} {f : α → String} {g : α → List Reading} :
    ∀ {xs : List α}, xs ≠ [] → (∀ x ∈ xs, Conjoined d (f x) (g x)) →
      Alternatives d (TableQuery.joinWith " OR " (xs.map f)) (xs.map fun x => .conj (g x))
  | [], hne, _ => absurd rfl hne
  | [x], _, h => by simpa using (h x List.mem_cons_self).alternatives
  | x :: y :: xs, _, h => by
    have hrest : Alternatives d (TableQuery.joinWith " OR " ((y :: xs).map f))
        ((y :: xs).map fun x => .conj (g x)) :=
      Alternatives.joinWith (List.cons_ne_nil y xs) fun z hz => h z (List.mem_cons_of_mem x hz)
    exact Alternatives.or (h x List.mem_cons_self) hrest

end

/-! ### Tests -/

namespace Element

/-- An element that neither connects nor belongs to a range. -/
def isInert (e : Element) : Bool := !e.isWord "AND" && !e.isWord "OR" && !e.isWord "BETWEEN"

/-- Elements that a test can start with. -/
def opensTest : List Element → Bool
  | .lexeme l :: es => !isBlank (.lexeme l) && (.lexeme l :: es).all isInert
  | _ => false

/-- Elements that a test can end with. -/
def closesTest (es : List Element) : Bool :=
  owedAfter 0 es = 0 && (bindRanges 0 es).all (fun e => !e.isWord "AND" && !e.isWord "OR") &&
    (bindRanges 0 es).getLast?.any fun e => !e.isBlank

section
variable {es fs : List Element} {n : Nat}

theorem bindRanges_inert (h : es.all isInert = true) : bindRanges n es = es ∧ owedAfter n es = n := by
  induction es with
  | nil => exact ⟨rfl, rfl⟩
  | cons e es ih =>
    rw [List.all_cons, Bool.and_eq_true] at h
    obtain ⟨hbind, howed⟩ := ih h.2
    have he := h.1
    simp only [isInert, Bool.and_eq_true, Bool.not_eq_true'] at he
    obtain ⟨⟨hand, -⟩, hbetween⟩ := he
    constructor
    · simp [bindRanges, hand, hbetween, hbind]
    · simp [owedAfter, hand, hbetween, howed]

theorem unit_of_ends {l : Lexeme} {rest : List Element} (hes : es = .lexeme l :: rest)
    (hfirst : isBlank (.lexeme l) = false) (hlast : ∀ e ∈ es.getLast?, e.isBlank = false) :
    unit es = .test (String.ofList (es.flatMap text)) := by
  have htrim : (es.dropWhile isBlank).rdropWhile isBlank = es := by
    rw [hes, List.dropWhile_cons_of_neg (by simp [hfirst]), ← hes]
    refine List.rdropWhile_eq_self_iff.mpr fun hne => ?_
    rw [hlast _ (List.getLast?_eq_some_getLast hne)]
    exact Bool.false_ne_true
  unfold unit
  rw [htrim, hes]

end
end Element

/-- A test is read as a whole. -/
theorem Conjoined.test {d : Dialect} {s t : String} {es fs : List Element} (hs : Element.ofText? d s = some es)
    (hopen : opensTest es = true) (ht : Element.ofText? d t = some fs) (hclose : closesTest fs = true)
    (hsep : Separate s t) : Conjoined d (s ++ t) [.test (s ++ t)] := by
  simp only [closesTest, Bool.and_eq_true, decide_eq_true_eq] at hclose
  obtain ⟨⟨howed, hplain⟩, hlast⟩ := hclose
  have hst := ofText?_append hs ht hsep
  cases es with
  | nil => cases hopen
  | cons e es =>
    cases e with
    | lexeme l =>
      simp only [opensTest, Bool.and_eq_true, Bool.not_eq_true'] at hopen
      obtain ⟨hfirst, hinert⟩ := hopen
      obtain ⟨hbind, howedl⟩ := bindRanges_inert (n := 0) hinert
      have hbound : bindRanges 0 (.lexeme l :: es ++ fs) = .lexeme l :: (es ++ bindRanges 0 fs) := by
        rw [bindRanges_append, hbind, howedl]
        rfl
      have hwords : ∀ e ∈ bindRanges 0 (.lexeme l :: es ++ fs), e.isWord "AND" = false ∧ e.isWord "OR" = false := by
        rw [bindRanges_append, hbind, howedl]
        intro e he
        rcases List.mem_append.mp he with he | he
        · have := List.all_eq_true.mp hinert e he
          simp only [isInert, Bool.and_eq_true, Bool.not_eq_true'] at this
          exact this.1
        · simpa using List.all_eq_true.mp hplain e he
      have hlast' : ∀ e ∈ (bindRanges 0 (.lexeme l :: es ++ fs)).getLast?, e.isBlank = false := by
        rw [bindRanges_append, hbind, howedl]
        intro e he
        obtain ⟨e', he', hfull⟩ := (Option.any_eq_true _ _).mp hlast
        rw [List.getLast?_append, he'] at he
        cases he
        simpa using hfull
      refine ⟨_, hst, ?_, ?_, fun e he => (hwords e he).2, ?_⟩
      · simp [hfirst]
      · rw [owedAfter_append, howedl, howed]
      · rw [units, List.splitOnP_eq_singleton fun e he => (hwords e he).1, List.map_singleton,
          unit_of_ends hbound hfirst hlast', text_bindRanges, text_ofText? hst, String.ofList_toList]
    | _ => cases hopen

end TableQuery
