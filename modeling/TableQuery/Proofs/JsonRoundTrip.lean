import TableQuery.Json.Writer
import TableQuery.Proofs.JsonReading
import TableQuery.Proofs.Rows

/-! What is written as JSON text spells a value. The values that JSON knows are spelled themselves, and so they are read
    back: null, truth values, whole numbers that are not too long, text, lists, and dictionaries without repeated keys. -/

namespace TableQuery

namespace Json

/-! ### Strings -/

theorem hexValue?_hexDigit : ∀ n < 16, hexValue? (hexDigit n) = some n := by decide

theorem codeUnit_hexDigits {n : Nat} (h : n < 0x10000) : CodeUnit (hexDigits 4 n) n := by
  have hdigit (k : Nat) : hexValue? (hexDigit (k % 16)) = some (k % 16) :=
    hexValue?_hexDigit _ (Nat.mod_lt k (by decide))
  simp only [CodeUnit, hexDigits, List.nil_append, List.cons_append, takeUnit?, hdigit, Option.bind_eq_bind,
    Option.bind_some, Option.some.injEq, Prod.mk.injEq, and_true]
  omega

theorem char_range (c : Char) : c.toNat < 0xD800 ∨ 0xDFFF < c.toNat ∧ c.toNat < 0x110000 := c.valid

section
variable {c : Char} {cs s : List Char}

/-- A character of sixteen bits is no surrogate. -/
theorem body_unitEscape (hunit : c.toNat < 0x10000) (h : Body cs s) : Body (unitEscape c.toNat ++ cs) (c :: s) := by
  have hrange := char_range c
  have hsurrogate : isHighSurrogate c.toNat = false ∧ isLowSurrogate c.toNat = false := by
    simp only [isHighSurrogate, isLowSurrogate, Bool.and_eq_false_iff, decide_eq_false_iff_not]
    omega
  have hchar : unitChar c.toNat = c := by
    rw [unitChar, hsurrogate.1, hsurrogate.2]
    exact Char.ofNat_toNat c
  have hbody := Body.unit (codeUnit_hexDigits hunit) (fun hhigh => by rw [hsurrogate.1] at hhigh; cases hhigh) h
  rw [hchar] at hbody
  exact hbody

theorem body_pairEscape (hlong : 0x10000 ≤ c.toNat) (h : Body cs s) :
    Body (unitEscape (0xD800 + (c.toNat - 0x10000) / 0x400) ++ unitEscape (0xDC00 + (c.toNat - 0x10000) % 0x400) ++ cs)
      (c :: s) := by
  have hrange := char_range c
  have hsurrogates : isHighSurrogate (0xD800 + (c.toNat - 0x10000) / 0x400) = true ∧
      isLowSurrogate (0xDC00 + (c.toNat - 0x10000) % 0x400) = true := by
    simp only [isHighSurrogate, isLowSurrogate, Bool.and_eq_true, decide_eq_true_eq]
    omega
  have hcode : 0x10000 + (0xD800 + (c.toNat - 0x10000) / 0x400 - 0xD800) * 0x400 +
      (0xDC00 + (c.toNat - 0x10000) % 0x400 - 0xDC00) = c.toNat := by omega
  have hbody := Body.pair (codeUnit_hexDigits (n := 0xD800 + (c.toNat - 0x10000) / 0x400) (by omega))
    (codeUnit_hexDigits (n := 0xDC00 + (c.toNat - 0x10000) % 0x400) (by omega)) hsurrogates h
  rw [hcode, Char.ofNat_toNat] at hbody
  rw [List.append_assoc]
  exact hbody

theorem body_escapeChar (h : Body cs s) : Body (escapeChar c ++ cs) (c :: s) := by
  unfold escapeChar
  -- the characters with a short escape
  iterate 7
    split
    · rename_i hc
      exact .short (by rw [hc]; rfl) h
  dsimp only
  split
  · rename_i hquote hescape _ _ _ _ _ hprintable
    exact .plain hquote hescape hprintable.1 h
  · split
    · rename_i hunit
      exact body_unitEscape hunit h
    · rename_i hlong
      exact body_pairEscape (Nat.not_lt.mp hlong) h

end

theorem body_escaped (s : List Char) : Body (s.flatMap escapeChar) s := by
  induction s with
  | nil => exact .nil
  | cons c s ih =>
    rw [List.flatMap_cons]
    exact body_escapeChar ih

/-! ### Numbers -/

theorem isDigit_of_mem_decimalDigits {n : Nat} {c : Char} (h : c ∈ decimalDigits n) : c.isDigit = true :=
  Nat.isDigit_of_mem_toDigits (by decide) (by decide) h

theorem natOf_decimalDigits (n : Nat) : natOf (decimalDigits n) = n := by
  have hvalue : Nat.ofDigitChars 10 (decimalDigits n) 0 = n := Nat.ofDigitChars_toDigits (by decide) (by decide)
  rw [Nat.ofDigitChars] at hvalue
  simp only [natOf, Nat.mul_comm _ 10]
  exact hvalue

/-- A number has no zero in front. -/
theorem head_decimalDigits_ne_zero {n : Nat} (h : n ≠ 0) : (decimalDigits n).head? ≠ some '0' := by
  induction n using Nat.strongRecOn with
  | ind n ih =>
    by_cases hsmall : n < 10
    · have hdigit : ∀ k < 10, k ≠ 0 → [k.digitChar].head? ≠ some '0' := by decide
      rw [decimalDigits, Nat.toDigits_of_lt_base hsmall]
      exact hdigit n hsmall h
    · have hfront : n / 10 < n ∧ n / 10 ≠ 0 := by omega
      rw [decimalDigits, Nat.toDigits_of_base_le (by decide) (Nat.not_lt.mp hsmall),
        List.head?_append_of_ne_nil _ Nat.toDigits_ne_nil]
      exact ih (n / 10) hfront.1 hfront.2

theorem whole_decimalDigits (n : Nat) : Whole (decimalDigits n) := by
  refine ⟨⟨Nat.toDigits_ne_nil, fun c hc => isDigit_of_mem_decimalDigits hc⟩, fun hhead => ?_⟩
  by_cases hzero : n = 0
  · rw [hzero]
    rfl
  · exact absurd hhead (head_decimalDigits_ne_zero hzero)

/-! ### Values -/

/-- The values that JSON knows. Whole numbers keep to a limit of digits, if there is one. -/
inductive Plain (limit : Option Nat) : Value → Prop
  | null : Plain limit .null
  | bool (b : Bool) : Plain limit (.bool b)
  | int {n : Int} (h : ∀ most ∈ limit, digitCount n.natAbs ≤ most) : Plain limit (.int n)
  | text (s : String) : Plain limit (.text s)
  | list {xs : List Value} (h : ∀ x ∈ xs, Plain limit x) : Plain limit (.list xs)
  | dict {es : List (String × Value)} (hkeys : (es.map Prod.fst).Nodup) (h : ∀ e ∈ es, Plain limit e.2) :
    Plain limit (.dict es)

/-- A value has JSON text, and the text spells the second value. -/
def Written (limit : Option Nat) (v w : Value) : Prop := ∃ cs, writeChars limit v = .ok cs ∧ Spells limit cs w

section
variable {limit : Option Nat}

theorem written_null : Written limit .null .null :=
  ⟨_, rfl, .name List.mem_cons_self⟩

theorem written_bool (b : Bool) : Written limit (.bool b) (.bool b) := by
  cases b with
  | true => exact ⟨_, rfl, .name (List.mem_cons_of_mem _ List.mem_cons_self)⟩
  | false => exact ⟨_, rfl, .name (List.mem_cons_of_mem _ (List.mem_cons_of_mem _ List.mem_cons_self))⟩

theorem written_text (s : String) : Written limit (.text s) (.text s) := by
  have hspells : Spells limit (writeText s) (.text (String.ofList s.toList)) := .text (body_escaped s.toList)
  rw [String.ofList_toList] at hspells
  exact ⟨_, rfl, hspells⟩

theorem written_int {n : Int} (h : ∀ most ∈ limit, digitCount n.natAbs ≤ most) : Written limit (.int n) (.int n) := by
  have hspells (negative : Bool) : Spells limit ((if negative then ['-'] else []) ++ decimalDigits n.natAbs)
      (.int (if negative then -(n.natAbs : Int) else n.natAbs)) := by
    have hnumber : Spells limit ((if negative then ['-'] else []) ++ (decimalDigits n.natAbs ++ ([] ++ [])))
        (numberOf negative (decimalDigits n.natAbs) [] none) :=
      .number (whole_decimalDigits n.natAbs) .none .none fun _ _ => h
    rw [numberOf, natOf_decimalDigits, List.append_nil, List.append_nil] at hnumber
    exact hnumber
  refine ⟨_, by rw [writeChars, if_neg (not_any_lt h)], ?_⟩
  cases n with
  | ofNat m =>
    rw [intText, natText, String.toList_ofList]
    exact hspells false
  | negSucc m =>
    rw [intText, natText, String.toList_append, String.toList_ofList, String.toList_ofList]
    exact hspells true

/-! ### Lists and dictionaries -/

theorem blank_nil : Blank [] := fun _ hc => nomatch hc

theorem blank_space : Blank [' '] := List.forall_mem_singleton.mpr rfl

/-- Items are written as the parts of a list. Whatever blanks stand in front of them belong to the first. -/
theorem exists_parts {xs ws : List Value} (h : List.Forall₂ (Written limit) xs ws) : xs ≠ [] → ∀ {bs : List Char},
    Blank bs → ∃ body, writeItems limit xs = .ok body ∧ ∃ parts : List Part, parts ≠ [] ∧ (∀ p ∈ parts, p.Padded) ∧
      (∀ p ∈ parts, Spells limit p.inner p.value) ∧ bs ++ body = separated (parts.map Part.text) ∧
      parts.map Part.value = ws := by
  induction h with
  | nil => exact fun hne => absurd rfl hne
  | @cons x w xs ws hx hxs ih =>
    intro _ bs hbs
    obtain ⟨cs, hcs, hspells⟩ := hx
    let part : Part := { front := bs, inner := cs, back := [], value := w }
    have hpadded : part.Padded := ⟨hbs, blank_nil⟩
    have htext : part.text = bs ++ cs := by simp only [part, Part.text, List.append_nil]
    cases hxs with
    | nil =>
      refine ⟨cs, by rw [writeItems, hcs]; rfl, [part], List.cons_ne_nil _ _, ?_, ?_, ?_, rfl⟩
      · exact List.forall_mem_singleton.mpr hpadded
      · exact List.forall_mem_singleton.mpr hspells
      · rw [List.map_singleton, separated_singleton, htext]
    | @cons y u ys us hy hys =>
      obtain ⟨body, hbody, parts, hne, hpads, hspell, htexts, hvalues⟩ := ih (List.cons_ne_nil y ys) blank_space
      refine ⟨cs ++ ',' :: ' ' :: body, by rw [writeItems, hcs, hbody]; rfl, part :: parts, List.cons_ne_nil _ _,
        ?_, ?_, ?_, ?_⟩
      · exact List.forall_mem_cons.mpr ⟨hpadded, hpads⟩
      · exact List.forall_mem_cons.mpr ⟨hspells, hspell⟩
      · obtain ⟨p, ps, rfl⟩ := List.exists_cons_of_ne_nil hne
        have hjoin := separated_cons_cons Part.text part p ps []
        rw [List.append_nil, List.append_nil, ← htexts, htext, List.append_assoc] at hjoin
        exact hjoin.symm
      · rw [List.map_cons, hvalues]

theorem written_list {xs ws : List Value} (h : List.Forall₂ (Written limit) xs ws) :
    Written limit (.list xs) (.list ws) := by
  cases h with
  | nil => exact ⟨_, rfl, .emptyList blank_nil⟩
  | cons hx hxs =>
    obtain ⟨body, hbody, parts, hne, hpadded, hspells, htext, hvalues⟩ :=
      exists_parts (.cons hx hxs) (List.cons_ne_nil _ _) blank_nil
    rw [List.nil_append] at htext
    rw [← hvalues]
    refine ⟨_, by rw [writeChars, hbody]; rfl, ?_⟩
    rw [htext]
    exact .list hne hpadded hspells

/-- An entry keeps its key. -/
def WrittenEntry (limit : Option Nat) (e f : String × Value) : Prop := e.1 = f.1 ∧ Written limit e.2 f.2

theorem exists_entries {es fs : List (String × Value)} (h : List.Forall₂ (WrittenEntry limit) es fs) : es ≠ [] →
    ∀ {bs : List Char}, Blank bs → ∃ body, writeEntries limit es = .ok body ∧ ∃ entries : List Entry, entries ≠ [] ∧
      (∀ e ∈ entries, e.WellFormed) ∧ (∀ e ∈ entries, Spells limit e.part.inner e.part.value) ∧
      bs ++ body = separated (entries.map Entry.text) ∧ entries.map Entry.pair = fs := by
  induction h with
  | nil => exact fun hne => absurd rfl hne
  | @cons e f es fs he hes ih =>
    intro _ bs hbs
    obtain ⟨k, v⟩ := e
    obtain ⟨k', w⟩ := f
    obtain ⟨hk, cs, hcs, hspells⟩ := he
    obtain rfl : k = k' := hk
    let entry : Entry :=
      { front := bs, key := k.toList.flatMap escapeChar, name := k.toList, behind := []
        part := { front := [' '], inner := cs, back := [], value := w } }
    have hformed : entry.WellFormed := ⟨hbs, body_escaped k.toList, blank_nil, blank_space, blank_nil⟩
    have htext : entry.text = bs ++ (writeText k ++ ':' :: ' ' :: cs) := by
      simp only [entry, Entry.text, Part.text, writeText, List.append_nil, List.nil_append, List.cons_append,
        List.append_assoc]
    have hpair : entry.pair = (k, w) := by simp only [entry, Entry.pair, String.ofList_toList]
    cases hes with
    | nil =>
      refine ⟨writeText k ++ ':' :: ' ' :: cs, by rw [writeEntries, hcs]; rfl, [entry], List.cons_ne_nil _ _, ?_, ?_, ?_,
        ?_⟩
      · exact List.forall_mem_singleton.mpr hformed
      · exact List.forall_mem_singleton.mpr hspells
      · rw [List.map_singleton, separated_singleton, htext]
      · rw [List.map_singleton, hpair]
    | @cons e' f' es' fs' he' hes' =>
      obtain ⟨body, hbody, entries, hne, hforms, hspell, htexts, hpairs⟩ := ih (List.cons_ne_nil e' es') blank_space
      refine ⟨writeText k ++ ':' :: ' ' :: cs ++ ',' :: ' ' :: body, by rw [writeEntries, hcs, hbody]; rfl,
        entry :: entries, List.cons_ne_nil _ _, ?_, ?_, ?_, ?_⟩
      · exact List.forall_mem_cons.mpr ⟨hformed, hforms⟩
      · exact List.forall_mem_cons.mpr ⟨hspells, hspell⟩
      · obtain ⟨e, es, rfl⟩ := List.exists_cons_of_ne_nil hne
        have hjoin := separated_cons_cons Entry.text entry e es []
        rw [List.append_nil, List.append_nil, ← htexts, htext, List.append_assoc] at hjoin
        exact hjoin.symm
      · rw [List.map_cons, hpair, hpairs]

/-- Of the entries with one key that a dictionary does not have, none is lost. -/
theorem written_dict {es fs : List (String × Value)} (h : List.Forall₂ (WrittenEntry limit) es fs) :
    Written limit (.dict es) (.dict (Row.ofList fs)) := by
  cases h with
  | nil => exact ⟨_, rfl, .emptyDict blank_nil⟩
  | cons he hes =>
    obtain ⟨body, hbody, entries, hne, hformed, hspells, htext, hpairs⟩ :=
      exists_entries (.cons he hes) (List.cons_ne_nil _ _) blank_nil
    rw [List.nil_append] at htext
    rw [← hpairs]
    refine ⟨_, by rw [writeChars, hbody]; rfl, ?_⟩
    rw [htext]
    exact .dict hne hformed hspells

theorem written_of_plain {v : Value} (h : Plain limit v) : Written limit v v := by
  induction h with
  | null => exact written_null
  | bool b => exact written_bool b
  | int hdigits => exact written_int hdigits
  | text s => exact written_text s
  | list _ ih => exact written_list (List.forall₂_same.mpr ih)
  | dict hkeys _ ih =>
    have hentries := written_dict (List.forall₂_same.mpr fun e he => (⟨rfl, ih e he⟩ : WrittenEntry limit e e))
    rw [Row.ofList_eq_self hkeys] at hentries
    exact hentries

/-! ### Texts -/

theorem writeWithin_of_written {v w : Value} (h : Written limit v w) :
    ∃ s, writeWithin limit v = .ok s ∧ Denotes limit s w := by
  obtain ⟨cs, hcs, hspells⟩ := h
  refine ⟨String.ofList cs, by rw [writeWithin, hcs]; rfl, { front := [], inner := cs, back := [], value := w }, ?_, ?_,
    rfl, hspells⟩
  · exact ⟨blank_nil, blank_nil⟩
  · simp only [Part.text, List.nil_append, List.append_nil, String.toList_ofList]

/-- What JSON knows is written, and what was written is read back. -/
theorem readWithin_write {v : Value} (h : Plain limit v) :
    ∃ s, writeWithin limit v = .ok s ∧ readWithin limit s = .ok v := by
  obtain ⟨s, hs, hdenotes⟩ := writeWithin_of_written (written_of_plain h)
  exact ⟨s, hs, readWithin_eq_ok_iff.mpr hdenotes⟩

end

end Json
end TableQuery
