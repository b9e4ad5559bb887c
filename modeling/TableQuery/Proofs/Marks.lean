import Mathlib.Algebra.GroupWithZero.Nat
import TableQuery.Proofs.Cutting
import TableQuery.Query.Name
import TableQuery.Sql.Rendering

/-! Marks: the placeholders of statement text, counted as text is put together. Text is `Marked` by a number
    if it closes every quote that it opens and has so many placeholders outside of quotes; put one after
    another, such texts have the sum of their placeholders. A quoted name has none, whatever it is a name
    of. -/

namespace TableQuery

/-- The quote that is open after a character. -/
def quoteAfter (inside : Option Char) (c : Char) : Option Char :=
  match inside with
  | some q => if c = q then none else some q
  | none => if isQuoteMark c then some c else none

/-- The quote that is open after text. -/
def openQuote (inside : Option Char) (cs : List Char) : Option Char := cs.foldl quoteAfter inside

/-- How often a character stands outside of quotes in text that starts inside the given quote. -/
def countOutside (x : Char) (inside : Option Char) : List Char → Nat
  | [] => 0
  | c :: cs => (if inside = none ∧ c = x then 1 else 0) + countOutside x (quoteAfter inside c) cs

/-- Text that closes its quotes and has the given number of placeholders. -/
def Marked (s : String) (n : Nat) : Prop :=
  openQuote none s.toList = none ∧ countOutside '?' none s.toList = n

instance (s : String) (n : Nat) : Decidable (Marked s n) := inferInstanceAs (Decidable (_ ∧ _))

section
variable {inside : Option Char} {cs ds : List Char}

theorem openQuote_append : openQuote inside (cs ++ ds) = openQuote (openQuote inside cs) ds := List.foldl_append

theorem countOutside_append {x : Char} : countOutside x inside (cs ++ ds) =
    countOutside x inside cs + countOutside x (openQuote inside cs) ds := by
  induction cs generalizing inside with
  | nil => simp [countOutside, openQuote]
  | cons c cs ih =>
    rw [List.cons_append, countOutside, ih, countOutside, Nat.add_assoc]
    rfl

theorem isQuoteMark_question : isQuoteMark '?' = false := by decide

/-- Pieces with a character more in front of the first. -/
def prependChar (c : Char) : List (List Char) → List (List Char)
  | [] => [[c]]
  | piece :: rest => (c :: piece) :: rest

/-- A question mark outside of quotes ends a piece; any other character belongs to the piece at hand. -/
theorem placeholderPieces_cons {c : Char} : placeholderPieces inside (c :: cs) =
    if inside = none ∧ c = '?' then [] :: placeholderPieces none cs
    else prependChar c (placeholderPieces (quoteAfter inside c) cs) := by
  cases inside with
  | some q => rw [if_neg (fun h => nomatch h.1)]; rfl
  | none =>
    by_cases hq : isQuoteMark c = true
    · have hc : c ≠ '?' := fun h => by simp [h, isQuoteMark_question] at hq
      rw [placeholderPieces, if_pos hq, if_neg (fun h => hc h.2), quoteAfter, if_pos hq]
      rfl
    · by_cases hc : c = '?'
      · rw [placeholderPieces, if_neg hq, if_pos hc, if_pos ⟨rfl, hc⟩]
      · rw [placeholderPieces, if_neg hq, if_neg hc, if_neg (fun h => hc h.2), quoteAfter, if_neg hq]
        rfl

theorem length_prependChar {c : Char} {pieces : List (List Char)} (h : pieces ≠ []) :
    (prependChar c pieces).length = pieces.length := by
  cases pieces with
  | nil => exact absurd rfl h
  | cons piece rest => rfl

/-- The pieces of a text are one more than its placeholders. -/
theorem length_placeholderPieces : (placeholderPieces inside cs).length = countOutside '?' inside cs + 1 := by
  induction cs generalizing inside with
  | nil => rfl
  | cons c cs ih =>
    rw [placeholderPieces_cons, countOutside]
    split
    · rename_i h
      obtain ⟨rfl, rfl⟩ := h
      rw [List.length_cons, ih, Nat.add_comm 1]
      rfl
    · rw [length_prependChar (List.length_pos_iff.mp (by rw [ih]; exact Nat.succ_pos _)), ih, Nat.zero_add]

/-- Text without placeholders belongs to the piece that starts with what stands behind it. -/
theorem placeholderPieces_append (h : countOutside '?' inside cs = 0) :
    placeholderPieces inside (cs ++ ds) = cs.foldr prependChar (placeholderPieces (openQuote inside cs) ds) := by
  induction cs generalizing inside with
  | nil => rfl
  | cons c cs ih =>
    rw [countOutside, Nat.add_eq_zero_iff] at h
    have hmark : ¬ (inside = none ∧ c = '?') := fun hc => by simp [hc] at h
    rw [List.cons_append, placeholderPieces_cons, if_neg hmark, ih h.2]
    rfl

theorem placeholderCount_eq (s : String) : placeholderCount s = countOutside '?' none s.toList := by
  rw [placeholderCount, length_placeholderPieces, Nat.add_sub_cancel]

end

namespace Marked
variable {s t : String} {m n : Nat}

theorem append (hs : Marked s m) (ht : Marked t n) : Marked (s ++ t) (m + n) := by
  unfold Marked
  rw [String.toList_append, openQuote_append, countOutside_append, hs.1, hs.2, ht.1, ht.2]
  exact ⟨rfl, rfl⟩

theorem eq_placeholderCount (h : Marked s n) : placeholderCount s = n := (placeholderCount_eq s).trans h.2

/-- Joined pieces have the placeholders of the pieces, if the separator has none. -/
theorem joinWith {α : Type} {sep : String} (hsep : Marked sep 0) {f : α → String} {g : α → Nat} :
    ∀ {xs : List α}, (∀ x ∈ xs, Marked (f x) (g x)) → Marked (joinWith sep (xs.map f)) (xs.map g).sum
  | [], _ => ⟨rfl, rfl⟩
  | [x], h => by simpa using h x List.mem_cons_self
  | x :: y :: xs, h => by
    have ih : Marked (TableQuery.joinWith sep ((y :: xs).map f)) ((y :: xs).map g).sum :=
      joinWith hsep fun z hz => h z (List.mem_cons_of_mem x hz)
    have hx := (h x List.mem_cons_self).append hsep
    simpa [joinWith_cons_cons] using hx.append ih

/-- Among joined pieces one stands behind the placeholders of those in front of it. -/
theorem exists_joinWith_append {α : Type} {sep : String} (hsep : Marked sep 0) {f : α → String} {g : α → Nat}
    (x : α) (ys : List α) : ∀ {xs : List α}, (∀ y ∈ xs, Marked (f y) (g y)) →
      ∃ front back, TableQuery.joinWith sep ((xs ++ x :: ys).map f) = front ++ f x ++ back ∧
        Marked front (xs.map g).sum
  | [], _ => by
    cases ys with
    | nil => exact ⟨"", "", by simp, ⟨rfl, rfl⟩⟩
    | cons y ys =>
      refine ⟨"", sep ++ TableQuery.joinWith sep ((y :: ys).map f), ?_, ⟨rfl, rfl⟩⟩
      simp [joinWith_cons_cons, String.append_assoc]
  | z :: zs, h => by
    obtain ⟨hz, hzs⟩ := List.forall_mem_cons.mp h
    obtain ⟨front, back, heq, hfront⟩ := exists_joinWith_append hsep x ys hzs
    refine ⟨f z ++ sep ++ front, back, ?_, ?_⟩
    · rw [List.cons_append, List.map_cons, joinWith_cons (by simp), heq]
      simp only [String.append_assoc]
    · exact (hz.append hsep).append hfront

theorem joinWith_zero {sep : String} (hsep : Marked sep 0) {ss : List String} (h : ∀ s ∈ ss, Marked s 0) :
    Marked (TableQuery.joinWith sep ss) 0 := by
  have hsum : (ss.map fun _ => 0).sum = 0 := by simp [List.map_const']
  have : Marked (TableQuery.joinWith sep (ss.map id)) (ss.map fun _ => 0).sum := joinWith hsep h
  rwa [List.map_id, hsum] at this

end Marked

/-! ### Blanks -/

theorem isQuoteMark_of_openQuote {q : Char} : ∀ {cs : List Char} {inside : Option Char},
    (∀ r, inside = some r → isQuoteMark r = true) → openQuote inside cs = some q → isQuoteMark q = true
  | [], _, hi, h => hi q h
  | c :: cs, inside, hi, h => by
    have hstep : ∀ r, quoteAfter inside c = some r → isQuoteMark r = true := by
      intro r hr
      unfold quoteAfter at hr
      split at hr <;> split at hr <;> cases hr
      · exact hi r rfl
      · assumption
    exact isQuoteMark_of_openQuote hstep h

theorem isQuoteMark_of_isBlank {c : Char} (h : isBlank c = true) : isQuoteMark c = false := by
  by_contra hq
  simp only [isQuoteMark, Bool.not_eq_false, Bool.or_eq_true, decide_eq_true_eq] at hq
  rcases hq with (rfl | rfl) | rfl <;> exact absurd h (by decide)

/-- Blanks neither open nor close a quote. -/
theorem openQuote_blanks {inside : Option Char} (hi : ∀ q, inside = some q → isQuoteMark q = true) :
    ∀ {cs : List Char}, (∀ c ∈ cs, isBlank c = true) → openQuote inside cs = inside
  | [], _ => rfl
  | c :: cs, h => by
    obtain ⟨hc, hrest⟩ := List.forall_mem_cons.mp h
    have hstep : quoteAfter inside c = inside := by
      cases inside with
      | none => simp [quoteAfter, isQuoteMark_of_isBlank hc]
      | some q =>
        have hne : c ≠ q := fun he => by simp [← he, isQuoteMark_of_isBlank hc] at hi
        simp [quoteAfter, hne]
    rw [openQuote, List.foldl_cons, hstep]
    exact openQuote_blanks hi hrest

theorem countOutside_blanks {x : Char} (hx : isBlank x = false) {inside : Option Char} :
    ∀ {cs : List Char}, (∀ c ∈ cs, isBlank c = true) → countOutside x inside cs = 0
  | [], _ => rfl
  | c :: cs, h => by
    obtain ⟨hc, hrest⟩ := List.forall_mem_cons.mp h
    have hne : c ≠ x := by
      rintro rfl
      rw [hx] at hc
      cases hc
    rw [countOutside, countOutside_blanks hx hrest]
    simp [hne]

/-- Trimming takes neither quotes nor placeholders away. -/
theorem Marked.trimText {s : String} {n : Nat} (h : Marked s n) : Marked (trimText s) n := by
  obtain ⟨front, back, heq, hfront, hback⟩ := trim_eq s.toList
  have hopen := h.1
  have hcount := h.2
  have hfront' : openQuote none front = none := openQuote_blanks (by simp) hfront
  have hquote : ∀ q, openQuote none (trim s.toList) = some q → isQuoteMark q = true :=
    fun q hq => isQuoteMark_of_openQuote (by simp) hq
  rw [heq, List.append_assoc, openQuote_append, hfront', openQuote_append, openQuote_blanks hquote hback] at hopen
  rw [heq, List.append_assoc, countOutside_append, hfront', countOutside_append,
    countOutside_blanks rfl hfront, countOutside_blanks rfl hback, Nat.zero_add, Nat.add_zero] at hcount
  exact ⟨by rw [toList_trimText]; exact hopen, by rw [toList_trimText]; exact hcount⟩

/-! ### Names -/

/-- Between two quotes everything is inside, since a quote inside is written twice. -/
theorem enclosed_scan {q : Char} (hq : isQuoteMark q = true) (cs : List Char) :
    openQuote (some q) (replaceChar q [q, q] cs) = some q ∧
      countOutside '?' (some q) (replaceChar q [q, q] cs) = 0 := by
  have hmark : q ≠ '?' := fun h => by simp [h, isQuoteMark_question] at hq
  induction cs with
  | nil => exact ⟨rfl, rfl⟩
  | cons c cs ih =>
    have hcons : replaceChar q [q, q] (c :: cs) = (if c = q then [q, q] else [c]) ++ replaceChar q [q, q] cs := rfl
    rw [hcons, openQuote_append, countOutside_append]
    by_cases hc : c = q
    · have hopen : openQuote (some q) [q, q] = some q := by simp [openQuote, quoteAfter, hq]
      have hcount : countOutside '?' (some q) [q, q] = 0 := by simp [countOutside, quoteAfter, hmark]
      rw [if_pos hc, hopen, hcount, ih.1, ih.2]
      exact ⟨rfl, rfl⟩
    · have hopen : openQuote (some q) [c] = some q := by simp [openQuote, quoteAfter, hc]
      have hcount : countOutside '?' (some q) [c] = 0 := by simp [countOutside]
      rw [if_neg hc, hopen, hcount, ih.1, ih.2]
      exact ⟨rfl, rfl⟩

theorem marked_enclose {q : Char} (hq : isQuoteMark q = true) (s : String) : Marked (Dialect.enclose q s) 0 := by
  have hmark : q ≠ '?' := fun h => by simp [h, isQuoteMark_question] at hq
  obtain ⟨hopen, hcount⟩ := enclosed_scan hq s.toList
  have hfirst : quoteAfter none q = some q := by simp [quoteAfter, hq]
  have hlast : quoteAfter (some q) q = none := by simp [quoteAfter]
  unfold Marked Dialect.enclose
  rw [String.toList_ofList, List.cons_append]
  constructor
  · rw [openQuote, List.foldl_cons, hfirst, ← openQuote, openQuote_append, hopen]
    simp [openQuote, hlast]
  · rw [countOutside, hfirst, countOutside_append, hcount, hopen]
    simp [countOutside, hmark]

/-- Text without quotes and question marks. -/
theorem marked_of_plain {s : String} (h : ∀ c ∈ s.toList, isQuoteMark c = false ∧ c ≠ '?') : Marked s 0 := by
  unfold Marked
  generalize s.toList = cs at h
  induction cs with
  | nil => exact ⟨rfl, rfl⟩
  | cons c cs ih =>
    obtain ⟨⟨hq, hc⟩, hrest⟩ := List.forall_mem_cons.mp h
    have hstep : quoteAfter none c = none := by simp [quoteAfter, hq]
    obtain ⟨hopen, hcount⟩ := ih hrest
    rw [openQuote, List.foldl_cons, countOutside, hstep]
    exact ⟨hopen, by simp [hcount, hc]⟩

theorem isNameChar_plain {c : Char} (h : isNameChar c = true) : isQuoteMark c = false ∧ c ≠ '?' := by
  constructor
  · by_contra hq
    simp only [isQuoteMark, Bool.not_eq_false, Bool.or_eq_true, decide_eq_true_eq] at hq
    rcases hq with (rfl | rfl) | rfl <;> exact absurd h (by decide)
  · rintro rfl
    exact absurd h (by decide)

/-- A quoted name is closed and holds no placeholder. Without quotes that is so of names only. -/
theorem marked_quote {d : Dialect} {name : String} (h : d = .generic → isName name = true) :
    Marked (d.quote name) 0 := by
  have hsegment : ∀ segment ∈ cutText '.' name, Marked (d.quoteSegment segment) 0 := by
    intro segment hsegment
    unfold Dialect.quoteSegment
    split
    · rename_i hstar
      exact hstar ▸ by decide
    · cases d with
      | generic =>
        obtain ⟨piece, hpiece, rfl⟩ := List.mem_map.mp hsegment
        have hall := List.all_eq_true.mp (Bool.and_eq_true_iff.mp (h rfl)).2
        refine marked_of_plain fun c hc => isNameChar_plain (hall c ?_)
        have hc' : c ∈ piece := by simpa [Dialect.quoteName] using hc
        exact mem_of_mem_cutAt hpiece c hc'
      | sqlite => exact marked_enclose (by decide) segment
      | mysql => exact marked_enclose (by decide) segment
      | postgresql => exact marked_enclose (by decide) segment
  unfold Dialect.quote
  split
  · rename_i hstar
    exact hstar ▸ by decide
  · refine Marked.joinWith_zero (by decide) fun s hs => ?_
    obtain ⟨segment, hmem, rfl⟩ := List.mem_map.mp hs
    exact hsegment segment hmem

end TableQuery
