import TableQuery.Proofs.JsonGrammar

/-! What the reader of JSON text finds. It finds a value exactly where the grammar has one spelled, and so no text spells
    two values. -/

namespace TableQuery

namespace Json

/-! ### Numbers -/

section
variable {cs rest whole fraction : List Char} {power : Option Int}

theorem digits_takeWhile (h : cs.takeWhile Char.isDigit ≠ []) : Digits (cs.takeWhile Char.isDigit) :=
  ⟨h, fun _ hc => List.mem_takeWhile_imp hc⟩

theorem whole_of_takeWhole (h : takeWhole cs = (whole, rest)) (hne : whole ≠ []) : Whole whole ∧ cs = whole ++ rest := by
  unfold takeWhole at h
  split at h
  · obtain ⟨rfl, rfl⟩ := Prod.mk.inj h
    exact ⟨⟨⟨hne, fun c hc => by rw [List.mem_singleton.mp hc]; rfl⟩, fun _ => rfl⟩, rfl⟩
  · rename_i hzero
    obtain ⟨rfl, rfl⟩ := Prod.mk.inj h
    refine ⟨⟨digits_takeWhile hne, fun hhead => ?_⟩, List.takeWhile_append_dropWhile.symm⟩
    -- Text that starts with a zero has been read as the zero alone.
    cases cs with
    | nil => cases hhead
    | cons c cs =>
      rw [List.takeWhile_cons] at hhead
      split at hhead
      · cases hhead
        exact absurd rfl (hzero cs)
      · cases hhead

theorem fraction_of_takeFractionDigits (h : takeFractionDigits cs = (fraction, rest)) :
    ∃ point, Fraction point fraction ∧ cs = point ++ rest := by
  unfold takeFractionDigits at h
  split at h
  · rename_i tail
    dsimp only at h
    split at h
    · obtain ⟨rfl, rfl⟩ := Prod.mk.inj h
      exact ⟨[], .none, rfl⟩
    · rename_i hne
      obtain ⟨rfl, rfl⟩ := Prod.mk.inj h
      refine ⟨_, .point (digits_takeWhile fun hnil => hne (by rw [hnil]; rfl)), ?_⟩
      rw [List.cons_append, List.takeWhile_append_dropWhile]
  · obtain ⟨rfl, rfl⟩ := Prod.mk.inj h
    exact ⟨[], .none, rfl⟩

theorem takeSign_cases (cs : List Char) : cs = '-' :: (takeSign cs).2 ∧ (takeSign cs).1 = true ∨
    cs = '+' :: (takeSign cs).2 ∧ (takeSign cs).1 = false ∨ cs = (takeSign cs).2 ∧ (takeSign cs).1 = false := by
  unfold takeSign
  split
  · exact .inl ⟨rfl, rfl⟩
  · exact .inr (.inl ⟨rfl, rfl⟩)
  · exact .inr (.inr ⟨rfl, rfl⟩)

theorem power_of_takePower (h : takePower cs = (power, rest)) : ∃ mark, Power mark power ∧ cs = mark ++ rest := by
  unfold takePower at h
  split at h
  · rename_i c tail
    split at h
    · rename_i hmark
      dsimp only at h
      split at h
      · obtain ⟨rfl, rfl⟩ := Prod.mk.inj h
        exact ⟨[], .none, rfl⟩
      · rename_i hne
        obtain ⟨rfl, rfl⟩ := Prod.mk.inj h
        have hdigits : Digits ((takeSign tail).2.takeWhile Char.isDigit) :=
          digits_takeWhile fun hnil => hne (by rw [hnil]; rfl)
        have hsplit := List.takeWhile_append_dropWhile (p := Char.isDigit) (l := (takeSign tail).2)
        rcases takeSign_cases tail with ⟨htail, hsign⟩ | ⟨htail, hsign⟩ | ⟨htail, hsign⟩
        · rw [hsign, if_pos rfl]
          exact ⟨_, .minus hmark hdigits, by rw [List.cons_append, List.cons_append, hsplit, ← htail]⟩
        · rw [hsign, if_neg Bool.false_ne_true]
          exact ⟨_, .plus hmark hdigits, by rw [List.cons_append, List.cons_append, hsplit, ← htail]⟩
        · rw [hsign, if_neg Bool.false_ne_true]
          exact ⟨_, .plain hmark hdigits, by rw [List.cons_append, hsplit, ← htail]⟩
    · obtain ⟨rfl, rfl⟩ := Prod.mk.inj h
      exact ⟨[], .none, rfl⟩
  · obtain ⟨rfl, rfl⟩ := Prod.mk.inj h
    exact ⟨[], .none, rfl⟩

variable {limit : Option Nat} {v : Value}

theorem spells_of_takeNumber {negative : Bool} (h : takeNumber limit negative cs = .ok (v, rest)) :
    ∃ inner, cs = inner ++ rest ∧ Spells limit ((if negative then ['-'] else []) ++ inner) v := by
  rw [takeNumber] at h
  cases htakeWhole : takeWhole cs with
  | mk whole behind =>
    rw [htakeWhole] at h
    dsimp only at h
    split at h
    · cases h
    rename_i hne
    cases htakeFraction : takeFractionDigits behind with
    | mk fraction tail =>
      rw [htakeFraction] at h
      dsimp only at h
      cases htakePower : takePower tail with
      | mk power back =>
        rw [htakePower] at h
        dsimp only at h
        obtain ⟨hwhole, rfl⟩ := whole_of_takeWhole htakeWhole fun hnil => hne (by rw [hnil]; rfl)
        obtain ⟨point, hfraction, rfl⟩ := fraction_of_takeFractionDigits htakeFraction
        obtain ⟨mark, hpower, rfl⟩ := power_of_takePower htakePower
        refine ⟨whole ++ (point ++ mark), ?_⟩
        split at h
        · split at h
          · cases h
          · rename_i hlong
            obtain ⟨rfl, rfl⟩ := Prod.mk.inj (Except.ok.inj h)
            refine ⟨by simp only [List.append_assoc], .number hwhole hfraction hpower fun _ _ => ?_⟩
            rintro most rfl
            exact Nat.not_lt.mp fun hlt => hlong (decide_eq_true hlt)
        · rename_i hparts
          obtain ⟨rfl, rfl⟩ := Prod.mk.inj (Except.ok.inj h)
          have hnumber := numberOf.eq_2 negative whole fraction power hparts
          refine ⟨by simp only [List.append_assoc], ?_⟩
          rw [← hnumber]
          refine .number hwhole hfraction hpower fun hnoPoint hnoMark => ?_
          subst hnoPoint hnoMark
          cases hfraction
          cases hpower
          exact (hparts rfl rfl).elim

end

/-! ### Strings -/

section
variable {cs rest s : List Char}

theorem StartsLow.append (h : StartsLow cs) (more : List Char) : StartsLow (cs ++ more) := by
  obtain ⟨tail, low, rest, rfl, htaken, hlow⟩ := h
  obtain ⟨ls, rfl, hunit⟩ := exists_codeUnit htaken
  refine ⟨ls ++ rest ++ more, low, rest ++ more, rfl, ?_, hlow⟩
  rw [List.append_assoc]
  exact hunit.takeUnit? _

/-- What the escape of a code unit is read as: a character of its own, or one of two surrogates. -/
theorem codeUnits_of_takeEscape? {c : Char} (h : takeEscape? cs = some (c, rest)) :
    (∃ hs n, CodeUnit hs n ∧ (isHighSurrogate n = true → ¬ StartsLow rest) ∧ cs = hs ++ rest ∧ c = unitChar n) ∨
    ∃ hs ls high low, CodeUnit hs high ∧ CodeUnit ls low ∧ (isHighSurrogate high = true ∧ isLowSurrogate low = true) ∧
      cs = hs ++ '\\' :: 'u' :: (ls ++ rest) ∧
      c = Char.ofNat (0x10000 + (high - 0xD800) * 0x400 + (low - 0xDC00)) := by
  simp only [takeEscape?, Option.bind_eq_bind, Option.bind_eq_some_iff] at h
  obtain ⟨⟨high, behind⟩, htaken, h⟩ := h
  obtain ⟨hs, rfl, hunit⟩ := exists_codeUnit htaken
  dsimp only at h
  split at h
  · rename_i hhigh
    split at h
    · rename_i tail
      split at h
      · rename_i low back hlowTaken
        obtain ⟨ls, rfl, hlowUnit⟩ := exists_codeUnit hlowTaken
        split at h
        · rename_i hlow
          obtain ⟨rfl, rfl⟩ := Prod.mk.inj (Option.some.inj h)
          exact .inr ⟨hs, ls, high, low, hunit, hlowUnit, ⟨hhigh, hlow⟩, rfl, rfl⟩
        · rename_i hlow
          obtain ⟨rfl, rfl⟩ := Prod.mk.inj (Option.some.inj h)
          refine .inl ⟨hs, high, hunit, fun _ hstarts => ?_, rfl, rfl⟩
          obtain ⟨tail, low', back', heq, htaken', hlow'⟩ := hstarts
          obtain ⟨-, -, rfl⟩ := by simpa only [List.cons.injEq] using heq
          obtain ⟨rfl, -⟩ := Prod.mk.inj (Option.some.inj (hlowTaken.symm.trans htaken'))
          exact hlow hlow'
      · rename_i hnone
        obtain ⟨rfl, rfl⟩ := Prod.mk.inj (Option.some.inj h)
        refine .inl ⟨hs, high, hunit, fun _ hstarts => ?_, rfl, rfl⟩
        obtain ⟨tail, low', back', heq, htaken', -⟩ := hstarts
        obtain ⟨-, -, rfl⟩ := by simpa only [List.cons.injEq] using heq
        cases hnone.symm.trans htaken'
    · rename_i hother
      obtain ⟨rfl, rfl⟩ := Prod.mk.inj (Option.some.inj h)
      refine .inl ⟨hs, high, hunit, fun _ hstarts => ?_, rfl, rfl⟩
      obtain ⟨tail, low', back', rfl, -, -⟩ := hstarts
      exact hother tail rfl
  · rename_i hlow
    obtain ⟨rfl, rfl⟩ := Prod.mk.inj (Option.some.inj h)
    exact .inl ⟨hs, high, hunit, fun hhigh => absurd hhigh hlow, rfl, rfl⟩

theorem body_of_takeString {steps : Nat} : ∀ {cs s rest : List Char}, takeString steps cs = some (s, rest) →
    ∃ body, cs = body ++ '"' :: rest ∧ Body body s := by
  induction steps with
  | zero => exact fun h => nomatch h
  | succ steps ih =>
    intro cs s rest h
    cases cs with
    | nil => cases h
    | cons c cs =>
      unfold takeString at h
      split at h
      · rename_i hquote
        obtain ⟨rfl, rfl⟩ := Prod.mk.inj (Option.some.inj h)
        exact ⟨[], by rw [hquote]; rfl, .nil⟩
      rename_i hquote
      split at h
      · rename_i hescape
        subst hescape
        split at h
        · cases h
        · rename_i e tail
          split at h
          · rename_i hunit
            subst hunit
            simp only [Option.bind_eq_bind, Option.bind_eq_some_iff] at h
            obtain ⟨⟨d, behind⟩, hescape, ⟨s', rest'⟩, hrest, h⟩ := h
            obtain ⟨rfl, rfl⟩ := Prod.mk.inj (Option.some.inj h)
            obtain ⟨body, rfl, hbody⟩ := ih hrest
            rcases codeUnits_of_takeEscape? hescape with ⟨hs, n, hunit, halone, rfl, rfl⟩ |
              ⟨hs, ls, high, low, hhigh, hlow, hpair, rfl, hd⟩
            · exact ⟨_, by simp only [List.cons_append, List.append_assoc],
                .unit hunit (fun hhigh hstarts => halone hhigh (hstarts.append _)) hbody⟩
            · have hchars := Body.pair hhigh hlow hpair hbody
              rw [← hd] at hchars
              exact ⟨_, by simp only [List.cons_append, List.append_assoc], hchars⟩
          · simp only [Option.bind_eq_bind, Option.bind_eq_some_iff] at h
            obtain ⟨d, hshort, ⟨s', rest'⟩, hrest, h⟩ := h
            obtain ⟨rfl, rfl⟩ := Prod.mk.inj (Option.some.inj h)
            obtain ⟨body, rfl, hbody⟩ := ih hrest
            exact ⟨_, rfl, .short hshort hbody⟩
      · rename_i hescape
        split at h
        · cases h
        · rename_i hcontrol
          simp only [Option.bind_eq_bind, Option.bind_eq_some_iff] at h
          obtain ⟨⟨s', rest'⟩, hrest, h⟩ := h
          obtain ⟨rfl, rfl⟩ := Prod.mk.inj (Option.some.inj h)
          obtain ⟨body, rfl, hbody⟩ := ih hrest
          exact ⟨_, rfl, .plain hquote hescape (Nat.not_lt.mp hcontrol) hbody⟩

end

/-! ### Values -/

section
variable {limit : Option Nat} {cs rest : List Char} {v : Value}

theorem exists_blank (cs : List Char) : ∃ bs, Blank bs ∧ cs = bs ++ skipSpace cs :=
  ⟨cs.takeWhile isSpace, fun _ hc => List.mem_takeWhile_imp hc, List.takeWhile_append_dropWhile.symm⟩

theorem exists_blank_of_skipSpace {c : Char} (h : skipSpace cs = c :: rest) : ∃ bs, Blank bs ∧ cs = bs ++ c :: rest := by
  obtain ⟨bs, hbs, hcs⟩ := exists_blank cs
  exact ⟨bs, hbs, h ▸ hcs⟩

/-- What is found in some number of steps is spelled at the front of the text, whatever blanks stand before the items or
    entries. -/
structure Sound (limit : Option Nat) (steps : Nat) : Prop where
  value : ∀ {cs v rest}, takeValue limit steps cs = .ok (v, rest) → ∃ inner, cs = inner ++ rest ∧ Spells limit inner v
  items : ∀ {cs vs rest}, takeItems limit steps cs = .ok (vs, rest) → ∀ {bs}, Blank bs → ∃ parts : List Part,
    parts ≠ [] ∧ (∀ p ∈ parts, p.Padded) ∧ (∀ p ∈ parts, Spells limit p.inner p.value) ∧
      bs ++ cs = separated (parts.map Part.text) ++ ']' :: rest ∧ vs = parts.map Part.value
  entries : ∀ {cs es rest}, takeEntries limit steps cs = .ok (es, rest) → ∀ {bs}, Blank bs → ∃ entries : List Entry,
    entries ≠ [] ∧ (∀ e ∈ entries, e.WellFormed) ∧ (∀ e ∈ entries, Spells limit e.part.inner e.part.value) ∧
      bs ++ cs = separated (entries.map Entry.text) ++ '\x7d' :: rest ∧ es = entries.map Entry.pair

namespace Sound
variable {steps : Nat} (h : Sound limit steps)
include h

theorem takeValue (hread : takeValue limit (steps + 1) cs = .ok (v, rest)) :
    ∃ inner, cs = inner ++ rest ∧ Spells limit inner v := by
  unfold Json.takeValue at hread
  split at hread
  · rename_i tail
    split at hread
    · rename_i s back hstring
      obtain ⟨rfl, rfl⟩ := Prod.mk.inj (Except.ok.inj hread)
      obtain ⟨body, rfl, hbody⟩ := body_of_takeString hstring
      exact ⟨_, by rw [List.cons_append, List.append_assoc]; rfl, .text hbody⟩
    · cases hread
  · rename_i tail
    split at hread
    · rename_i hskip
      obtain ⟨rfl, rfl⟩ := Prod.mk.inj (Except.ok.inj hread)
      obtain ⟨bs, hbs, rfl⟩ := exists_blank_of_skipSpace hskip
      exact ⟨_, by rw [List.cons_append, List.append_assoc]; rfl, .emptyList hbs⟩
    · obtain ⟨⟨vs, back⟩, hitems, hread⟩ := bind_eq_ok.mp hread
      obtain ⟨rfl, rfl⟩ := Prod.mk.inj (Except.ok.inj hread)
      obtain ⟨bs, hbs, hcs⟩ := exists_blank tail
      obtain ⟨parts, hne, hpadded, hspells, htext, rfl⟩ := h.items hitems hbs
      exact ⟨_, by rw [hcs, htext, List.cons_append, List.append_assoc]; rfl, .list hne hpadded hspells⟩
  · rename_i tail
    split at hread
    · rename_i hskip
      obtain ⟨rfl, rfl⟩ := Prod.mk.inj (Except.ok.inj hread)
      obtain ⟨bs, hbs, rfl⟩ := exists_blank_of_skipSpace hskip
      exact ⟨_, by rw [List.cons_append, List.append_assoc]; rfl, .emptyDict hbs⟩
    · obtain ⟨⟨es, back⟩, hentries, hread⟩ := bind_eq_ok.mp hread
      obtain ⟨rfl, rfl⟩ := Prod.mk.inj (Except.ok.inj hread)
      obtain ⟨bs, hbs, hcs⟩ := exists_blank tail
      obtain ⟨entries, hne, hformed, hspells, htext, rfl⟩ := h.entries hentries hbs
      exact ⟨_, by rw [hcs, htext, List.cons_append, List.append_assoc]; rfl, .dict hne hformed hspells⟩
  · split at hread
    · rename_i found hname
      obtain ⟨name, hmem, rfl⟩ := takeName?_eq_some.mp (hname.trans (congrArg some (Except.ok.inj hread)))
      exact ⟨_, rfl, .name hmem⟩
    · split at hread
      · obtain ⟨inner, rfl, hspells⟩ := spells_of_takeNumber hread
        exact ⟨_, rfl, hspells⟩
      · obtain ⟨inner, rfl, hspells⟩ := spells_of_takeNumber hread
        exact ⟨_, rfl, hspells⟩

theorem takeItems {vs : List Value} (hread : takeItems limit (steps + 1) cs = .ok (vs, rest)) {bs : List Char}
    (hbs : Blank bs) : ∃ parts : List Part, parts ≠ [] ∧ (∀ p ∈ parts, p.Padded) ∧
      (∀ p ∈ parts, Spells limit p.inner p.value) ∧
      bs ++ cs = separated (parts.map Part.text) ++ ']' :: rest ∧ vs = parts.map Part.value := by
  unfold Json.takeItems at hread
  obtain ⟨⟨item, behind⟩, hitem, hafter⟩ := bind_eq_ok.mp hread
  obtain ⟨inner, rfl, hspells⟩ := h.value hitem
  obtain ⟨back, hback, hbehind⟩ := exists_blank behind
  -- The item is the first part, whatever its end says about others.
  let part : Part := { front := bs, inner, back, value := item }
  have hpadded : part.Padded := ⟨hbs, hback⟩
  have htext : bs ++ (inner ++ behind) = part.text ++ skipSpace behind := by
    conv_lhs => rw [hbehind]
    simp only [part, Part.text, List.append_assoc]
  dsimp only at hafter
  split at hafter
  · rename_i hskip
    obtain ⟨rfl, rfl⟩ := Prod.mk.inj (Except.ok.inj hafter)
    refine ⟨[part], List.cons_ne_nil _ _, ?_, ?_, ?_, rfl⟩
    · exact List.forall_mem_singleton.mpr hpadded
    · exact List.forall_mem_singleton.mpr hspells
    · rw [htext, hskip, List.map_singleton, separated_singleton]
  · rename_i tail hskip
    obtain ⟨⟨others, rest⟩, hothers, hfound⟩ := bind_eq_ok.mp hafter
    obtain ⟨rfl, rfl⟩ := Prod.mk.inj (Except.ok.inj hfound)
    obtain ⟨front, hfront, htail⟩ := exists_blank tail
    obtain ⟨parts, hne, hpads, hspell, hparts, rfl⟩ := h.items hothers hfront
    refine ⟨part :: parts, List.cons_ne_nil _ _, ?_, ?_, ?_, rfl⟩
    · exact List.forall_mem_cons.mpr ⟨hpadded, hpads⟩
    · exact List.forall_mem_cons.mpr ⟨hspells, hspell⟩
    · obtain ⟨p, ps, rfl⟩ := List.exists_cons_of_ne_nil hne
      rw [htext, hskip, separated_cons_cons, ← hparts, ← htail]
  · cases hafter

theorem takeEntries {es : List (String × Value)} (hread : takeEntries limit (steps + 1) cs = .ok (es, rest))
    {bs : List Char} (hbs : Blank bs) : ∃ entries : List Entry, entries ≠ [] ∧ (∀ e ∈ entries, e.WellFormed) ∧
      (∀ e ∈ entries, Spells limit e.part.inner e.part.value) ∧
      bs ++ cs = separated (entries.map Entry.text) ++ '\x7d' :: rest ∧ es = entries.map Entry.pair := by
  unfold Json.takeEntries at hread
  split at hread
  · rename_i tail
    split at hread
    · cases hread
    · rename_i key behindKey hstring
      split at hread
      · rename_i behindColon hcolon
        obtain ⟨⟨value, behind⟩, hvalue, hafter⟩ := bind_eq_ok.mp hread
        obtain ⟨body, rfl, hbody⟩ := body_of_takeString hstring
        obtain ⟨beforeColon, hbeforeColon, rfl⟩ := exists_blank_of_skipSpace hcolon
        obtain ⟨front, hfront, hfrontText⟩ := exists_blank behindColon
        obtain ⟨inner, hinner, hspells⟩ := h.value hvalue
        obtain ⟨back, hback, hbehind⟩ := exists_blank behind
        let entry : Entry :=
          { front := bs, key := body, name := key, behind := beforeColon, part := { front, inner, back, value } }
        have hformed : entry.WellFormed := ⟨hbs, hbody, hbeforeColon, hfront, hback⟩
        have htext : bs ++ '"' :: (body ++ '"' :: (beforeColon ++ ':' :: behindColon)) =
            entry.text ++ skipSpace behind := by
          rw [hfrontText, hinner]
          conv_lhs => rw [hbehind]
          simp only [entry, Entry.text, Part.text, List.append_assoc, List.cons_append]
        dsimp only at hafter
        split at hafter
        · rename_i hskip
          obtain ⟨rfl, rfl⟩ := Prod.mk.inj (Except.ok.inj hafter)
          refine ⟨[entry], List.cons_ne_nil _ _, ?_, ?_, ?_, rfl⟩
          · exact List.forall_mem_singleton.mpr hformed
          · exact List.forall_mem_singleton.mpr hspells
          · rw [htext, hskip, List.map_singleton, separated_singleton]
        · rename_i tail hskip
          obtain ⟨⟨others, rest⟩, hothers, hfound⟩ := bind_eq_ok.mp hafter
          obtain ⟨rfl, rfl⟩ := Prod.mk.inj (Except.ok.inj hfound)
          obtain ⟨frontTail, hfrontTail, htail⟩ := exists_blank tail
          obtain ⟨entries, hne, hforms, hspell, hentries, rfl⟩ := h.entries hothers hfrontTail
          refine ⟨entry :: entries, List.cons_ne_nil _ _, ?_, ?_, ?_, rfl⟩
          · exact List.forall_mem_cons.mpr ⟨hformed, hforms⟩
          · exact List.forall_mem_cons.mpr ⟨hspells, hspell⟩
          · obtain ⟨e, es, rfl⟩ := List.exists_cons_of_ne_nil hne
            rw [htext, hskip, separated_cons_cons, ← hentries, ← htail]
        · cases hafter
      · cases hread
  · cases hread

end Sound

theorem sound (steps : Nat) : Sound limit steps := by
  induction steps with
  | zero => exact ⟨fun h => (nomatch h), fun h => (nomatch h), fun h => (nomatch h)⟩
  | succ steps ih => exact ⟨ih.takeValue, ih.takeItems, ih.takeEntries⟩

/-! ### Texts -/

/-- A text is read as a value exactly where it is JSON for it. -/
theorem readWithin_eq_ok_iff {text : String} : readWithin limit text = .ok v ↔ Denotes limit text v := by
  rw [readWithin_eq_ok]
  constructor
  · rintro ⟨steps, rest, hread, hrest⟩
    obtain ⟨inner, hinner, hspells⟩ := (sound steps).value hread
    obtain ⟨front, hfront, htext⟩ := exists_blank text.toList
    refine ⟨{ front, inner, back := rest, value := v }, ⟨hfront, ?_⟩, ?_, rfl, hspells⟩
    · obtain ⟨back, hback, heq⟩ := exists_blank rest
      rw [hrest, List.append_nil] at heq
      exact heq ▸ hback
    · rw [htext, hinner, Part.text]
  · rintro ⟨p, hpadded, htext, rfl, hspells⟩
    have htells := hspells.tells
    have hends : Ends (p.back ++ []) := ends_nil.blank hpadded.2
    obtain ⟨steps, hsteps⟩ := htells.taken _ hends
    refine ⟨steps, p.back ++ [], ?_, ?_⟩
    · have hskip := p.skipSpace hpadded htells.starts []
      rw [List.append_nil] at hskip
      rw [← htext, hskip]
      exact hsteps
    · rw [skipSpace_blank hpadded.2]
      rfl

end

/-! ### The limit of digits -/

/-- So many digits stand in a row. -/
def Run (cs : List Char) (n : Nat) : Prop :=
  ∃ front ds back, cs = front ++ (ds ++ back) ∧ (∀ c ∈ ds, c.isDigit = true) ∧ ds.length = n

theorem Run.append {cs : List Char} {n : Nat} (h : Run cs n) (front : List Char) : Run (front ++ cs) n := by
  obtain ⟨before, ds, back, rfl, hds⟩ := h
  exact ⟨front ++ before, ds, back, (List.append_assoc _ _ _).symm, hds⟩

/-- Two ways to read a text, of which the first may refuse a number for its length. -/
def Limited {α : Type} (cs : List Char) (a b : Except ReadError α) : Prop :=
  a = b ∨ ∃ n, a = .error (.tooLong n) ∧ Run cs n

namespace Limited
variable {α β : Type} {cs : List Char} {a b : Except ReadError α}

theorem append (h : Limited cs a b) (front : List Char) : Limited (front ++ cs) a b := by
  rcases h with rfl | ⟨n, rfl, hrun⟩
  · exact .inl rfl
  · exact .inr ⟨n, rfl, hrun.append front⟩

theorem bind {f g : α → Except ReadError β} (h : Limited cs a b) (hf : ∀ x, b = .ok x → Limited cs (f x) (g x)) :
    Limited cs (a >>= f) (b >>= g) := by
  rcases h with rfl | ⟨n, rfl, hrun⟩
  · cases a with
    | error e => exact .inl rfl
    | ok x => exact hf x rfl
  · exact .inr ⟨n, rfl, hrun⟩

end Limited

section
variable {limit : Option Nat} {cs : List Char}

theorem limited_takeNumber (negative : Bool) (cs : List Char) :
    Limited cs (takeNumber limit negative cs) (takeNumber none negative cs) := by
  rw [takeNumber, takeNumber]
  cases htakeWhole : takeWhole cs with
  | mk whole behind =>
    dsimp only
    split
    · exact .inl rfl
    · rename_i hne
      obtain ⟨hwhole, rfl⟩ := whole_of_takeWhole htakeWhole fun hnil => hne (by rw [hnil]; rfl)
      split
      · split
        · exact .inr ⟨_, rfl, [], whole, behind, rfl, hwhole.isDigit, rfl⟩
        · exact .inl rfl
      · exact .inl rfl

/-- In some number of steps, the limit makes no other difference. -/
structure LimitedSteps (limit : Option Nat) (steps : Nat) : Prop where
  value : ∀ cs, Limited cs (takeValue limit steps cs) (takeValue none steps cs)
  items : ∀ cs, Limited cs (takeItems limit steps cs) (takeItems none steps cs)
  entries : ∀ cs, Limited cs (takeEntries limit steps cs) (takeEntries none steps cs)

theorem Limited.skipSpace {α : Type} {a b : Except ReadError α} (h : Limited (skipSpace cs) a b) : Limited cs a b := by
  obtain ⟨bs, -, hcs⟩ := exists_blank cs
  rw [hcs]
  exact h.append bs

namespace LimitedSteps
variable {steps : Nat} (h : LimitedSteps limit steps)
include h

theorem takeValue (cs : List Char) : Limited cs (takeValue limit (steps + 1) cs) (takeValue none (steps + 1) cs) := by
  unfold Json.takeValue
  split
  · exact .inl rfl
  · split
    · exact .inl rfl
    · exact (((h.items _).bind fun _ _ => .inl rfl).skipSpace).append ['[']
  · split
    · exact .inl rfl
    · exact (((h.entries _).bind fun _ _ => .inl rfl).skipSpace).append ['\x7b']
  · split
    · exact .inl rfl
    · split
      · exact (limited_takeNumber true _).append ['-']
      · exact limited_takeNumber false _

theorem takeItems (cs : List Char) : Limited cs (takeItems limit (steps + 1) cs) (takeItems none (steps + 1) cs) := by
  unfold Json.takeItems
  refine (h.value cs).bind fun found hitem => ?_
  obtain ⟨item, rest⟩ := found
  obtain ⟨inner, rfl, -⟩ := (sound steps).value hitem
  refine Limited.append ?_ inner
  dsimp only
  split
  · exact .inl rfl
  · rename_i tail hskip
    obtain ⟨bs, -, rfl⟩ := exists_blank_of_skipSpace hskip
    exact ((((h.items _).bind fun _ _ => .inl rfl).skipSpace).append [',']).append bs
  · exact .inl rfl

theorem takeEntries (cs : List Char) :
    Limited cs (takeEntries limit (steps + 1) cs) (takeEntries none (steps + 1) cs) := by
  unfold Json.takeEntries
  split
  · split
    · exact .inl rfl
    · rename_i key behindKey hstring
      obtain ⟨body, rfl, -⟩ := body_of_takeString hstring
      have hcs : '"' :: (body ++ '"' :: behindKey) = ('"' :: (body ++ ['"'])) ++ behindKey := by
        rw [List.cons_append, List.append_assoc, List.singleton_append]
      rw [hcs]
      refine Limited.append ?_ _
      split
      · rename_i tail hcolon
        obtain ⟨bs, -, rfl⟩ := exists_blank_of_skipSpace hcolon
        refine ((Limited.skipSpace ?_).append [':']).append bs
        refine (h.value _).bind fun found hvalue => ?_
        obtain ⟨v, rest⟩ := found
        obtain ⟨inner, hinner, -⟩ := (sound steps).value hvalue
        rw [hinner]
        refine Limited.append ?_ inner
        dsimp only
        split
        · exact .inl rfl
        · rename_i tail hskip
          obtain ⟨bs, -, rfl⟩ := exists_blank_of_skipSpace hskip
          exact ((((h.entries _).bind fun _ _ => .inl rfl).skipSpace).append [',']).append bs
        · exact .inl rfl
      · exact .inl rfl
  · exact .inl rfl

end LimitedSteps

theorem limitedSteps (steps : Nat) : LimitedSteps limit steps := by
  induction steps with
  | zero => exact ⟨fun _ => .inl rfl, fun _ => .inl rfl, fun _ => .inl rfl⟩
  | succ steps ih => exact ⟨ih.takeValue, ih.takeItems, ih.takeEntries⟩

/-- Under a limit text is read as without it, or refused for more digits in a row than the limit allows. -/
theorem readWithin_limited (text : String) : readWithin limit text = readWithin none text ∨
    ∃ most n, limit = some most ∧ readWithin limit text = .error (.tooLong n) ∧ most < n ∧ Run text.toList n := by
  have hread : Limited text.toList (readWithin limit text) (readWithin none text) :=
    (((limitedSteps _).value _).bind fun _ _ => .inl rfl).skipSpace
  refine hread.imp_right fun ⟨n, hlong, hrun⟩ => ?_
  have hrefuses := @failsOnly_readWithin limit text
  rw [hlong] at hrefuses
  rcases hrefuses with hmalformed | ⟨most, digits, hlimit, hmore, hdigits⟩
  · cases hmalformed
  · cases hdigits
    exact ⟨most, n, hlimit, hlong, hmore, hrun⟩

/-- What is read under a limit is what the text denotes. -/
theorem denotes_of_readWithin {text : String} {v : Value} (h : readWithin limit text = .ok v) : Denotes none text v := by
  rw [← readWithin_eq_ok_iff]
  rcases @readWithin_limited limit text with heq | ⟨_, _, -, hlong, -⟩
  · exact heq.symm.trans h
  · cases hlong.symm.trans h

/-- Text that is malformed under a limit denotes nothing. -/
theorem not_denotes_of_readWithin {text : String} (h : readWithin limit text = .error .malformed) (v : Value) :
    ¬ Denotes none text v := by
  rw [← readWithin_eq_ok_iff]
  intro hread
  rcases @readWithin_limited limit text with heq | ⟨_, _, -, hlong, -⟩
  · cases h.symm.trans (heq.trans hread)
  · cases hlong.symm.trans h

/-- Text is refused for its length only where so many digits stand in a row. -/
theorem run_of_readWithin {text : String} {most n : Nat} (h : readWithin (some most) text = .error (.tooLong n)) :
    most < n ∧ Run text.toList n := by
  rcases @readWithin_limited (some most) text with heq | ⟨_, _, hmost, hlong, hmore, hrun⟩
  · cases eq_malformed_of_readWithin (heq.symm.trans h)
  · cases hmost
    cases hlong.symm.trans h
    exact ⟨hmore, hrun⟩

end

end Json
end TableQuery
